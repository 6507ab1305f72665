/-
  CodeFigure/Gist/Reference.lean
  ==============================
  **Gist references: which gist, and which of its files.**

  A reference is written `[owner/]id [filename]`.  The owner has no blanks and
  no `/`, the identifier is a run of decimal digits, and the filename, behind at
  least one blank, has no blanks.  So a reference can be taken apart in one way
  only, from the left.

  Identifiers are 64-bit integers.  A run of digits that is no such integer is
  an error of its own, which says why.

  A reference that is put together from parts may hold any integer and any
  texts.  `text` writes it all the same; whether that reads back depends on the
  parts.
-/
import CodeFigure.Fault
import CodeFigure.Text.Blank
import CodeFigure.Text.Digit
import CodeFigure.Text.Quoted

namespace CodeFigure

open CodeFigure.Text

/-- A gist, and perhaps one file in it. -/
structure Reference where
  id : Int64
  owner : Option String
  filename : Option String
deriving DecidableEq

/-! ### Errors -/

inductive ReferenceError where
  | malformed (text : String)
  | invalidId (id : String) (reason : DigitsError)
deriving DecidableEq, Repr

def ReferenceError.message : ReferenceError → String
  | .malformed text => "invalid gist reference " ++ quoted text ++ ": expected [owner/]id [filename]"
  | .invalidId id _ => "invalid gist ID " ++ quoted id

/-- A number that cannot be read is the source of the error about it. -/
def ReferenceError.source? : ReferenceError → Option Fault
  | .malformed _ => none
  | .invalidId _ reason => some (.bare reason.message)

namespace Reference

/-! ### Reading -/

structure Parts where
  owner : Option (List Char)
  digits : List Char
  filename : Option (List Char)
deriving DecidableEq, Repr

def isOwnerChar (c : Char) : Bool := isInk c && c != '/'

/-- Take the owner off the front of `s`, if there is one: a run of owner
    characters with `/` behind it. -/
def cutOwner (s : List Char) : Option (List Char) × List Char :=
  match s.takeWhile isOwnerChar, s.dropWhile isOwnerChar with
  | c :: owner, '/' :: rest => (some (c :: owner), rest)
  | _, _ => (none, s)

/-- What follows the digits: nothing, or blanks and a filename.  The outer
    option is empty when it is neither. -/
def filename? : List Char → Option (Option (List Char))
  | [] => some none
  | c :: rest =>
    if isBlank c then
      match trimStart rest with
      | [] => none
      | name => if name.all isInk then some (some name) else none
    else none

def parts? (s : List Char) : Option Parts :=
  let (owner, rest) := cutOwner s
  match rest.takeWhile isDecimalDigit with
  | [] => none
  | digits => (filename? (rest.dropWhile isDecimalDigit)).map fun name => ⟨owner, digits, name⟩

/-- The largest identifier that 64 bits hold, one of them for the sign. -/
def maxId : Nat := 9223372036854775807

def ofParts (parts : Parts) : Except ReferenceError Reference :=
  match readBounded maxId parts.digits with
  | .ok id =>
    .ok ⟨Int64.ofNat id, parts.owner.map String.ofList, parts.filename.map String.ofList⟩
  | .error reason => .error (.invalidId (String.ofList parts.digits) reason)

def parse (text : String) : Except ReferenceError Reference :=
  match parts? (trim text.toList) with
  | none => .error (.malformed text)
  | some parts => ofParts parts

/-! ### Writing -/

def idText (reference : Reference) : String := String.ofList (signedDecimal reference.id.toInt)

def text (reference : Reference) : String :=
  (match reference.owner with
    | some owner => owner ++ "/"
    | none => "")
  ++ reference.idText
  ++ (match reference.filename with
    | some name => " " ++ name
    | none => "")

/-! ### Addresses -/

/-- The path of the file's contents on the host. -/
def rawPath (reference : Reference) : String :=
  (match reference.owner with
    | some owner => "/" ++ owner ++ "/" ++ reference.idText ++ "/raw"
    | none => "/raw/" ++ reference.idText)
  ++ (match reference.filename with
    | some name => "/" ++ name
    | none => "")

/-- The path of the gist's page on the host, the same for all its files. -/
def prettyPath (reference : Reference) : String :=
  match reference.owner with
  | some owner => "/" ++ owner ++ "/" ++ reference.idText
  | none => "/" ++ reference.idText

/-- `baseUrl` without slashes at its end. -/
def hostOf (baseUrl : String) : String :=
  String.ofList (dropEndWhile (· == '/') baseUrl.toList)

/-- Where the file's contents are, under `baseUrl`. -/
def rawUrl (reference : Reference) (baseUrl : String) : String :=
  hostOf baseUrl ++ reference.rawPath

/-- Where the gist's page is, under `baseUrl`. -/
def prettyUrl (reference : Reference) (baseUrl : String) : String :=
  hostOf baseUrl ++ reference.prettyPath

end Reference

end CodeFigure
