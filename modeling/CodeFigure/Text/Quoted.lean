/-
  CodeFigure/Text/Quoted.lean
  ===========================
  **Quoted text: any text on one line, with nothing invisible in it.**

  Diagnostics show foreign text (a response body, a rejected reference) in
  quotes.  Quoting leaves what a reader can see and tell apart as it is, and
  writes the rest as an escape: the quote and the backslash, line feed,
  carriage return, tab and NUL by their short names, every other character
  that shows nothing, or that would merge with the one before it, by its code
  point in hexadecimal.
-/
import CodeFigure.Text.UnprintableTable
import CodeFigure.Text.ExtendTable

namespace CodeFigure.Text

/-! ### What may stand as it is -/

/-- `c` shows a glyph of its own, or is the ASCII space. -/
def isPrintable (c : Char) : Bool :=
  if c.toNat < 0x80 then decide (0x20 ≤ c.toNat) && decide (c.toNat < 0x7F)
  else !unprintablesBeyondAscii.contains c

def extendsPrevious (c : Char) : Bool := graphemeExtenders.contains c

/-! ### Escapes -/

def hexadecimal (n : Nat) : List Char := Nat.toDigits 16 n

def codePointEscape (c : Char) : List Char :=
  ['\\', 'u', '{'] ++ hexadecimal c.toNat ++ ['}']

def escape (c : Char) : List Char :=
  if c = '\x00' then ['\\', '0']
  else if c = '\t' then ['\\', 't']
  else if c = '\r' then ['\\', 'r']
  else if c = '\n' then ['\\', 'n']
  else if c = '\\' then ['\\', '\\']
  else if c = '\x22' then ['\\', '\x22']
  else if extendsPrevious c || !isPrintable c then codePointEscape c
  else [c]

def quote (s : List Char) : List Char := '\x22' :: (s.flatMap escape ++ ['\x22'])

def quoted (s : String) : String := String.ofList (quote s.toList)

end CodeFigure.Text
