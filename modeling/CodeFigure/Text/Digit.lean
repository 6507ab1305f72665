/-
  CodeFigure/Text/Digit.lean
  ==========================
  **Decimal digits and the integers they write.**

  Every script may have ten decimal digits (`Nd`), and all of them are digits
  here.  Only the ASCII ones are given a value, so a run of digits that mixes
  scripts is recognised as a run of digits but is no integer.

  `readBounded` reads a run from the left.  It fails at the first character
  that has no value, and it fails at the first digit that takes the value over
  the bound; whichever comes first is the reason given.
-/
import CodeFigure.Text.DigitTable

namespace CodeFigure.Text

/-! ### The class -/

/-- `c` is a decimal digit of some script. -/
def isDecimalDigit (c : Char) : Bool := inClass Char.isDigit digitsBeyondAscii c

def digitValue (c : Char) : Nat := c.toNat - '0'.toNat

/-! ### Writing -/

def decimal (n : Nat) : List Char := Nat.toDigits 10 n

def signedDecimal (i : Int) : List Char :=
  match i with
  | .ofNat n => decimal n
  | .negSucc n => '-' :: decimal (n + 1)

/-! ### Reading -/

inductive DigitsError where
  | invalidDigit
  | tooLarge
deriving DecidableEq, Repr

def DigitsError.message : DigitsError → String
  | .invalidDigit => "invalid digit found in string"
  | .tooLarge => "number too large to fit in target type"

/-- Continue reading after digits worth `value`. -/
def readBoundedFrom (bound value : Nat) : List Char → Except DigitsError Nat
  | [] => .ok value
  | c :: rest =>
    if c.isDigit then
      let next := 10 * value + digitValue c
      if next ≤ bound then readBoundedFrom bound next rest else .error .tooLarge
    else .error .invalidDigit

/-- The integer written by a run of digits, leading zeros allowed, when it is
    at most `bound`. -/
def readBounded (bound : Nat) (digits : List Char) : Except DigitsError Nat :=
  readBoundedFrom bound 0 digits

theorem isDecimalDigit_of_isDigit {c : Char} (h : c.isDigit = true) : isDecimalDigit c = true := by
  have letterOrDigit : c.isAlphanum = true := by rw [Char.isAlphanum, h, Bool.or_true]
  rw [isDecimalDigit, inClass_of_lt (toNat_lt_of_isAlphanum letterOrDigit), h]

end CodeFigure.Text
