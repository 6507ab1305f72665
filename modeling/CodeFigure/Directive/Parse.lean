/-
  CodeFigure/Directive/Parse.lean
  ===============================
  **Reading a directive from source text.**

  The source has to begin with an opening tag and to end with a closing tag,
  blanks around them aside.  Both tags may have blanks behind their `{%`, and
  the closing tag also before its `%}`.

    * The parameters reach from the end of the word `codeblock` to the next
      `%`, which has to belong to `%}`.
    * The closing tag is the first one that nothing but blanks follows, so
      closing tags inside the body do not end it.
    * One line feed behind the opening tag and one before the closing tag
      belong to the tags and not to the body.
-/
import CodeFigure.Directive.Basic
import CodeFigure.Text.Lead

namespace CodeFigure.Directive

open CodeFigure.Text

/-! ### The opening tag -/

/-- What follows the tag name `codeblock`, with the bracket and blanks before
    it, at the start of a text.  The name ends where its word does. -/
def afterTagName? (s : List Char) : Option (List Char) :=
  (after? "\x7b%" (trimStart s)).bind fun inside =>
    (after? "codeblock" (trimStart inside)).bind fun rest =>
      if startsWord rest then none else some rest

def isInsideTag (c : Char) : Bool := c != '%'

/-- The parameters in the opening tag of `s`, and what follows the tag. -/
def opening? (s : List Char) : Option (List Char × List Char) :=
  (afterTagName? s).bind fun rest =>
    (after? "%\x7d" (rest.dropWhile isInsideTag)).map fun body =>
      (rest.takeWhile isInsideTag, body)

/-! ### The closing tag -/

def afterClosing? (s : List Char) : Option (List Char) :=
  (after? "\x7b%" s).bind fun inside =>
    (after? "endcodeblock" (trimStart inside)).bind fun rest =>
      after? "%\x7d" (trimStart rest)

def isClosing (s : List Char) : Bool :=
  match afterClosing? s with
  | some rest => allBlank rest
  | none => false

/-- What stands before the first closing tag with nothing but blanks behind it. -/
def beforeClosing? : List Char → Option (List Char)
  | [] => none
  | c :: rest => if isClosing (c :: rest) then some [] else (beforeClosing? rest).map (c :: ·)

/-! ### The body -/

def dropLineFeed : List Char → List Char
  | '\n' :: rest => rest
  | s => s

def dropFinalLineFeed (s : List Char) : List Char := (dropLineFeed s.reverse).reverse

def bodyOf (inner : List Char) : List Char := dropFinalLineFeed (dropLineFeed inner)

/-! ### The directive -/

def parse (source : String) : Except DirectiveError Directive :=
  match opening? source.toList with
  | none => .error .missingOpen
  | some (params, rest) =>
    match beforeClosing? rest with
    | none => .error .missingClose
    | some inner => make (String.ofList params) (String.ofList (bodyOf inner))

end CodeFigure.Directive
