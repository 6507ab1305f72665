/-
  CodeFigure/Text/Word.lean
  =========================
  **Word characters.**

  A word is a run of letters, marks, decimal digits, connecting punctuation
  and join controls of any script.  File extensions are words, and the name of
  a tag ends where its word does.
-/
import CodeFigure.Text.WordTable

namespace CodeFigure.Text

def isAsciiWord (c : Char) : Bool := c.isAlphanum || c == '_'

def isWord (c : Char) : Bool := inClass isAsciiWord wordsBeyondAscii c

def startsWord : List Char → Bool
  | [] => false
  | c :: _ => isWord c

end CodeFigure.Text
