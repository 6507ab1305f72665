/-
  CodeFigure/Gist/Url.lean
  ========================
  **Addresses, taken apart.**

  An address is written `scheme://authority`, followed by a target: a path and
  perhaps a query.  What stands behind a `#` is not part of the request and is
  dropped unread.  An address may also be a target alone or an authority alone,
  but neither can be asked for, since it does not say how.

  A target is judged character by character.  The authority has a shape as well:
  the host may stand in brackets, something may stand in front of an `@`, and
  colons and percent signs count only in the part that is neither
  (`AuthorityScan`).

  `Url.parse` says what is written, `Url.ofHttp` whether it is an address that
  HTTP can be used with.
-/
import CodeFigure.Text.Lead

namespace CodeFigure

open CodeFigure.Text

/-- An address in its parts.  `target` holds the path and the query. -/
structure Url where
  scheme : Option (List Char)
  authority : List Char
  target : List Char
deriving DecidableEq, Repr

inductive UrlError where
  | tooLong
  | schemeTooLong
  | invalidCharacter
  | invalidAuthority
  | invalidFormat
  | missingScheme (text : String)
  | unknownScheme (scheme : String)
deriving DecidableEq, Repr

def UrlError.message : UrlError → String
  | .tooLong => "http: uri too long"
  | .schemeTooLong => "http: scheme too long"
  | .invalidCharacter => "http: invalid uri character"
  | .invalidAuthority => "http: invalid authority"
  | .invalidFormat => "http: invalid format"
  | .missingScheme text => "bad uri: " ++ text ++ " is missing scheme"
  | .unknownScheme scheme => "bad uri: unknown scheme: " ++ scheme

/-! ### Schemes -/

def maxScheme : Nat := 64

def isSchemeChar (c : Char) : Bool :=
  c.isAlphanum || c == '+' || c == '-' || c == '.' || c == '~'

def cutScheme? (s : List Char) : Option (List Char × List Char) :=
  (after? "://" (s.dropWhile isSchemeChar)).map fun rest => (s.takeWhile isSchemeChar, rest)

/-- The scheme is HTTP's, with or without encryption, in any case of its ASCII
    letters. -/
def isHttp (scheme : List Char) : Bool :=
  scheme.map Char.toLower == "http".toList || scheme.map Char.toLower == "https".toList

/-! ### Authorities -/

/-- The most colons between brackets, or in front of an `@`. -/
def maxColons : Nat := 8

def isInAuthority (c : Char) : Bool := c != '/' && c != '?' && c != '#'

/-- `c` can stand in an authority and has no meaning there. -/
def isPlainAuthorityChar (c : Char) : Bool :=
  c.isAlphanum || "!$&'()*+,-.;=_~".toList.contains c

/-- What counts of an authority up to some place: the colons and whether there was
    a percent sign, both since the last `@` or closing bracket, and which brackets
    there were. -/
structure AuthorityScan where
  colons : Nat
  percent : Bool
  opened : Bool
  closed : Bool
deriving DecidableEq, Repr

namespace AuthorityScan

def start : AuthorityScan := ⟨0, false, false, false⟩

def step (scan : AuthorityScan) (c : Char) : Except UrlError AuthorityScan :=
  if c = ':' then
    if maxColons ≤ scan.colons then .error .invalidAuthority
    else .ok { scan with colons := scan.colons + 1 }
  else if c = '[' then
    if scan.percent || scan.opened then .error .invalidAuthority
    else .ok { scan with opened := true }
  else if c = ']' then
    if !scan.opened || scan.closed then .error .invalidAuthority
    else .ok { scan with colons := 0, percent := false, closed := true }
  else if c = '@' then .ok { scan with colons := 0, percent := false }
  else if c = '%' then .ok { scan with percent := true }
  else if isPlainAuthorityChar c then .ok scan
  else .error .invalidCharacter

/-- An authority may end here: brackets are closed, one colon at most leads to a
    port, and no percent sign is part of the host. -/
def isComplete (scan : AuthorityScan) : Bool :=
  scan.opened == scan.closed && decide (scan.colons ≤ 1) && !scan.percent

end AuthorityScan

/-- `authority` as it is, when it is one.  Behind an `@` there has to be a host. -/
def checkedAuthority (authority : List Char) : Except UrlError (List Char) := do
  let scan ← authority.foldlM AuthorityScan.step .start
  if scan.isComplete && authority.getLast? != some '@' then pure authority
  else throw .invalidAuthority

/-! ### Targets -/

def isPathChar (c : Char) : Bool :=
  decide (' ' < c) && c != '<' && c != '>' && c != '\x60'

def isQueryChar (c : Char) : Bool :=
  decide (' ' < c) && c != '<' && c != '>' && c != '\x22'

def targetOf (s : List Char) : Except UrlError (List Char) :=
  let target := s.takeWhile (· != '#')
  if (target.takeWhile (· != '?')).all isPathChar && (target.dropWhile (· != '?')).all isQueryChar
  then .ok target
  else .error .invalidCharacter

namespace Url

/-! ### Whole addresses -/

def maxLength : Nat := 65534

def text (url : Url) : String :=
  String.ofList ((url.scheme.map (· ++ "://".toList)).getD [] ++ url.authority ++ url.target)

/-- The address with `scheme`, if there is one, of which `s` is the rest. -/
def ofParts (scheme : Option (List Char)) (s : List Char) : Except UrlError Url := do
  let authority ← checkedAuthority (s.takeWhile isInAuthority)
  if authority.isEmpty then throw .invalidFormat
  else
    match scheme, s.dropWhile isInAuthority with
    | some scheme, rest => do
      let target ← targetOf rest
      pure ⟨some scheme, authority, target⟩
    | none, [] => pure ⟨none, authority, []⟩
    | none, _ :: _ => throw .invalidFormat

def parse (source : String) : Except UrlError Url :=
  let s := source.toList
  if maxLength < source.utf8ByteSize then .error .tooLong
  else if s.head? = some '/' then (targetOf s).map fun target => ⟨none, [], target⟩
  else
    match cutScheme? s with
    | some (scheme, rest) =>
      if maxScheme < scheme.length then .error .schemeTooLong else ofParts (some scheme) rest
    | none => ofParts none s

/-- Take an address apart that is meant for HTTP. -/
def ofHttp (source : String) : Except UrlError Url := do
  let url ← parse source
  match url.scheme with
  | none => throw (.missingScheme url.text)
  | some scheme =>
    if isHttp scheme then pure url else throw (.unknownScheme (String.ofList scheme))

def host (url : Url) : List Char :=
  let behindUser := (url.authority.reverse.takeWhile (· != '@')).reverse
  match behindUser with
  | '[' :: _ => behindUser.takeWhile (· != ']') ++ [']']
  | _ => behindUser.takeWhile (· != ':')

/-- The host is given by its number or is the machine itself, so that nobody has
    to be asked where it is. -/
def hasKnownHost (url : Url) : Bool :=
  match url.host with
  | '[' :: _ => true
  | host =>
    (!host.isEmpty && host.all fun c => c.isDigit || c == '.')
      || host.map Char.toLower == "localhost".toList

end Url

end CodeFigure
