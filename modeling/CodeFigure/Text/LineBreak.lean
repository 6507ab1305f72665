/-
  CodeFigure/Text/LineBreak.lean
  ==============================
  **Where lines end, and which characters are controls.**

  Unicode breaks a line at seven characters.  Programs that read lines agree on the line
  feed and differ on the others, so lines are cut by any class of characters that has the
  line feed and nothing but line breaks (`EndsLines`).
-/
import CodeFigure.Text.CharSet

namespace CodeFigure.Text

/-- The characters that a line always ends at: line feed, line tabulation, form feed,
    carriage return, next line and the two separators. -/
def lineBreaks : CharSet := ⟨[(0x0A, 0x0D), (0x85, 0x85), (0x2028, 0x2029)]⟩

def isLineBreak (c : Char) : Bool := lineBreaks.contains c

def controls : CharSet := ⟨[(0x00, 0x1F), (0x7F, 0x9F)]⟩

def isControl (c : Char) : Bool := controls.contains c

/-- Cutting at the characters of this class cuts at every line feed, and inside of no
    line. -/
structure EndsLines (ends : Char → Bool) : Prop where
  lineFeed : ends '\n' = true
  lineBreak : ∀ c, ends c = true → isLineBreak c = true

end CodeFigure.Text
