/-
  CodeFigure/Toml/Scalar.lean
  ===========================
  **Numbers, booleans and date-times in TOML.**

  All of these are written without quotes, with letters, digits and a few signs,
  so a document is first cut where such a run of characters ends, and the run is
  then read as a whole.

  Integers are kept up to 128 bits, signed or not; floats have to be finite in
  double precision unless they are written as `inf`.
-/
import CodeFigure.Toml.Value

namespace CodeFigure.Toml.Scalar

/-! ### Runs of digits -/

/-- The digits of `s`, which are separated by single underscores at most. -/
def digits? (isDigit : Char → Bool) : List Char → Option (List Char)
  | [] => none
  | [c] => if isDigit c then some [c] else none
  | c :: '_' :: rest => if isDigit c then (digits? isDigit rest).map (c :: ·) else none
  | c :: rest => if isDigit c then (digits? isDigit rest).map (c :: ·) else none

/-- The value of a digit, letters counting on from ten. -/
def digitValue (c : Char) : Nat :=
  if c.isDigit then c.toNat - '0'.toNat else c.toLower.toNat - 'a'.toNat + 10

def valueOf (base : Nat) (digits : List Char) : Nat :=
  digits.foldl (fun value c => base * value + digitValue c) 0

def isHexDigit (c : Char) : Bool :=
  c.isDigit || (decide ('a' ≤ c.toLower) && decide (c.toLower ≤ 'f'))

def isOctalDigit (c : Char) : Bool := decide ('0' ≤ c) && decide (c ≤ '7')

def isBinaryDigit (c : Char) : Bool := c == '0' || c == '1'

def unsigned : List Char → Bool × List Char
  | '-' :: rest => (true, rest)
  | '+' :: rest => (false, rest)
  | s => (false, s)

def wholeDigits? (s : List Char) : Option (List Char) :=
  match digits? Char.isDigit s with
  | some ('0' :: _ :: _) => none
  | digits => digits

/-! ### Integers -/

def integer? (s : List Char) : Option Int :=
  match s with
  | '0' :: 'x' :: rest => (digits? isHexDigit rest).map fun d => Int.ofNat (valueOf 16 d)
  | '0' :: 'o' :: rest => (digits? isOctalDigit rest).map fun d => Int.ofNat (valueOf 8 d)
  | '0' :: 'b' :: rest => (digits? isBinaryDigit rest).map fun d => Int.ofNat (valueOf 2 d)
  | _ =>
    let (negative, rest) := unsigned s
    (wholeDigits? rest).map fun d =>
      if negative then -Int.ofNat (valueOf 10 d) else Int.ofNat (valueOf 10 d)

/-- The integers that a document can hold: those that 128 bits hold, with one of
    them for the sign or without. -/
def integerFits (i : Int) : Bool :=
  decide (-Int.ofNat (1 <<< 127) ≤ i) && decide (i < Int.ofNat (1 <<< 128))

/-! ### Floats -/

/-- A float written in digits: its digits in a row, and the power of ten that
    they are multiplied by. -/
structure Decimal where
  digits : List Char
  exponent : Int

/-- The exponent written as `s`, the letter before it included; without one it
    is 0. -/
def exponent? : List Char → Option Int
  | [] => some 0
  | e :: rest =>
    if e.toLower = 'e' then
      let (negative, written) := unsigned rest
      (digits? Char.isDigit written).map fun d =>
        if negative then -Int.ofNat (valueOf 10 d) else Int.ofNat (valueOf 10 d)
    else none

def isMantissaChar (c : Char) : Bool := c.toLower != 'e'

def decimal? (s : List Char) : Option Decimal := do
  let mantissa := s.takeWhile isMantissaChar
  let exponent ← exponent? (s.dropWhile isMantissaChar)
  let whole ← wholeDigits? (mantissa.takeWhile (· != '.'))
  match mantissa.dropWhile (· != '.') with
  | [] => if s.all isMantissaChar then none else some ⟨whole, exponent⟩
  | _ :: fraction => do
    let places ← digits? Char.isDigit fraction
    some ⟨whole ++ places, exponent - Int.ofNat places.length⟩

/-- The least magnitude that is rounded to infinity in double precision. -/
def infinityBound : Nat := (1 <<< 1024) - (1 <<< 970)

/-- The magnitude is finite in double precision.  Numbers far from the bound are
    told by their length, so that no huge power is ever computed. -/
def Decimal.isFinite (d : Decimal) : Bool :=
  let value := valueOf 10 d.digits
  let places := d.exponent + Int.ofNat (d.digits.dropWhile (· == '0')).length
  if value = 0 ∨ places ≤ 300 then true
  else if 320 ≤ places then false
  else
    match d.exponent with
    | .ofNat e => decide (value * Nat.pow 10 e < infinityBound)
    | .negSucc e => decide (value < infinityBound * Nat.pow 10 (e + 1))

def isSpecial (s : List Char) : Bool := s == "inf".toList || s == "nan".toList

/-! ### Dates and times -/

/-- The number written with exactly `count` digits at the start of `s`, and what
    follows. -/
def fixed? (count : Nat) (s : List Char) : Option (Nat × List Char) :=
  let written := s.take count
  if written.length = count ∧ written.all Char.isDigit = true then
    some (valueOf 10 written, s.drop count)
  else none

def afterChar? (c : Char) : List Char → Option (List Char)
  | d :: rest => if c = d then some rest else none
  | [] => none

def daysOf (year month : Nat) : Nat :=
  if month = 2 then
    if year % 4 = 0 ∧ (year % 100 ≠ 0 ∨ year % 400 = 0) then 29 else 28
  else if month = 4 ∨ month = 6 ∨ month = 9 ∨ month = 11 then 30
  else 31

def afterDate? (s : List Char) : Option (List Char) := do
  let (year, s) ← fixed? 4 s
  let s ← afterChar? '-' s
  let (month, s) ← fixed? 2 s
  let s ← afterChar? '-' s
  let (day, s) ← fixed? 2 s
  if 1 ≤ month ∧ month ≤ 12 ∧ 1 ≤ day ∧ day ≤ daysOf year month then some s else none

def afterFraction? (s : List Char) : Option (List Char) :=
  match s with
  | '.' :: rest =>
    if (rest.takeWhile Char.isDigit).isEmpty then none else some (rest.dropWhile Char.isDigit)
  | _ => some s

def afterSeconds? (s : List Char) : Option (List Char) :=
  match s with
  | ':' :: rest => do
    let (second, s) ← fixed? 2 rest
    if second ≤ 60 then afterFraction? s else none
  | _ => some s

def afterHourMinute? (s : List Char) : Option (List Char) := do
  let (hour, s) ← fixed? 2 s
  let s ← afterChar? ':' s
  let (minute, s) ← fixed? 2 s
  if hour ≤ 23 ∧ minute ≤ 59 then some s else none

def afterTime? (s : List Char) : Option (List Char) := (afterHourMinute? s).bind afterSeconds?

/-- `s` is nothing or the distance from universal time. -/
def isOffset : List Char → Bool
  | [] => true
  | ['Z'] => true
  | ['z'] => true
  | '+' :: rest => afterHourMinute? rest == some []
  | '-' :: rest => afterHourMinute? rest == some []
  | _ => false

def isDatetime (s : List Char) : Bool :=
  match afterDate? s with
  | some [] => true
  | some (t :: rest) =>
    (t == 'T' || t == 't') &&
      match afterTime? rest with
      | some offset => isOffset offset
      | none => false
  | none => afterTime? s == some []

/-! ### All of them -/

def read (s : List Char) : Except Problem Value :=
  if s = "true".toList then .ok (.boolean true)
  else if s = "false".toList then .ok (.boolean false)
  else
    match integer? s with
    | some i => if integerFits i then .ok (.integer i) else .error (.outOfRange "integer")
    | none =>
      if isSpecial (unsigned s).2 then .ok .float
      else
        match decimal? (unsigned s).2 with
        | some d => if d.isFinite then .ok .float else .error (.outOfRange "float")
        | none => if isDatetime s then .ok .datetime else .error (.expected "a value")

end CodeFigure.Toml.Scalar
