/-
  CodeFigure/Config/Expansion.lean
  ================================
  **Environment variables in configuration values.**

  A value may refer to environment variables:

    * `${NAME}`, and `${NAME:-DEFAULT}` with a text that stands in when the
      variable is not set;
    * `$NAME`, where the name reaches as far as letters, numbers and `_` do;
    * `$$` for a dollar sign.

  Every other dollar sign means itself, and so does a `${` that is never closed.
  A value without `${` has no references at all and is taken as it is: dollar
  signs are common in addresses.

  A value is first cut into pieces and the pieces are then looked up, so what a
  variable contains, and what a default says, is never read again.
-/
import CodeFigure.Text.Alphanumeric
import CodeFigure.Text.Lead

namespace CodeFigure

open CodeFigure.Text

/-- The value of each variable that is set. -/
abbrev Environment := String → Option String

/-- The value of `name`, when `setting` gives it one.  A setting is written
    `NAME=VALUE`, so a name may reach into the value as far as an equals sign. -/
def valueIn? (name : String) (setting : String × String) : Option String :=
  (after? (name ++ "=") (setting.1 ++ "=" ++ setting.2).toList).map String.ofList

/-- The environment with these variables set; of two with one name the first.
    The empty name stands for nothing. -/
def environmentOf (settings : List (String × String)) : Environment := fun name =>
  if name = "" then none else settings.findSome? (valueIn? name)

namespace Expansion

/-- A piece of a value: a character that means itself, or a reference. -/
inductive Piece where
  | char (c : Char)
  | variable (name : List Char) (fallback : Option (List Char))
deriving DecidableEq, Repr

/-! ### Cutting a value into pieces -/

def isNameChar (c : Char) : Bool := isAlphanumeric c || c == '_'

def isInsideBraces (c : Char) : Bool := c != '}'

def cutAtDefault? : List Char → Option (List Char × List Char)
  | [] => none
  | ':' :: '-' :: rest => some ([], rest)
  | c :: rest => (cutAtDefault? rest).map fun cut => (c :: cut.1, cut.2)

/-- The reference with `inside` between its braces.  Without a name there is no
    default either. -/
def braced (inside : List Char) : Piece :=
  match cutAtDefault? inside with
  | some (c :: name, fallback) => .variable (c :: name) (some fallback)
  | _ => .variable inside none

def pieces (s : List Char) : List Piece :=
  match s with
  | [] => []
  | '$' :: '{' :: rest =>
    if (rest.dropWhile isInsideBraces).isEmpty then .char '$' :: .char '{' :: pieces rest
    else braced (rest.takeWhile isInsideBraces) :: pieces (rest.dropWhile isInsideBraces).tail
  | '$' :: '$' :: rest => .char '$' :: pieces rest
  | '$' :: rest =>
    if (rest.takeWhile isNameChar).isEmpty then .char '$' :: pieces rest
    else .variable (rest.takeWhile isNameChar) none :: pieces (rest.dropWhile isNameChar)
  | c :: rest => .char c :: pieces rest
termination_by s.length
decreasing_by
  all_goals simp only [List.length_cons, List.length_tail]
  · omega
  · have := (List.dropWhile_sublist isInsideBraces (l := rest)).length_le
    omega
  · omega
  · omega
  · have := (List.dropWhile_sublist isNameChar (l := rest)).length_le
    omega
  · omega

/-! ### Looking the pieces up -/

/-- What a piece stands for; the name of the variable when there is nothing. -/
def Piece.lookUp (environment : Environment) : Piece → Except String (List Char)
  | .char c => .ok [c]
  | .variable name fallback =>
    match environment (String.ofList name), fallback with
    | some value, _ => .ok value.toList
    | none, some text => .ok text
    | none, none => .error (String.ofList name)

/-- What the pieces stand for, one after the other.  The first variable without
    a value is the error. -/
def lookUpAll (environment : Environment) : List Piece → Except String (List Char)
  | [] => .ok []
  | piece :: rest =>
    match piece.lookUp environment with
    | .error name => .error name
    | .ok text =>
      match lookUpAll environment rest with
      | .error name => .error name
      | .ok texts => .ok (text ++ texts)

def hasBraces : List Char → Bool
  | '$' :: '{' :: _ => true
  | _ :: rest => hasBraces rest
  | [] => false

/-- Expand the references of `value`; the name of the first variable without a
    value when there is one. -/
def expand (environment : Environment) (value : String) : Except String String :=
  if hasBraces value.toList then
    (lookUpAll environment (pieces value.toList)).map String.ofList
  else .ok value

def names (value : String) : List String :=
  (pieces value.toList).filterMap fun piece =>
    match piece with
    | .char _ => none
    | .variable name _ => some (String.ofList name)

end Expansion

end CodeFigure
