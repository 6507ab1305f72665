/-
  CodeFigure/Params/LangTag.lean
  ==============================
  **Language tags: `lang:rb` and the like.**

  Anywhere in the parameters of a code block, `lang:` directly followed by a
  token names the file type outright.  The first such place counts, also when
  it lies inside a token, and case does not matter in the keyword.  The tag is
  then taken out of the text together with the blanks in front of it, and what
  remains is read as a caption; a later tag stays in.
-/
import CodeFigure.Text.Blank
import CodeFigure.Text.Fold

namespace CodeFigure

open CodeFigure.Text

/-- A text with a language tag in it: what stands before the tag and the blanks
    in front of it, the file type named, and what follows. -/
structure LangTag where
  before : List Char
  fileType : List Char
  after : List Char
deriving DecidableEq, Repr

namespace LangTag

/-- What follows `lang:` at the start of a text, when that is no blank. -/
def afterKeyword? (s : List Char) : Option (List Char) :=
  match afterFolded? "lang:" s with
  | some (c :: value) => if isInk c then some (c :: value) else none
  | _ => none

/-- Cut `s` at the first language tag: what precedes the keyword, and what
    follows it. -/
def cut? : List Char → Option (List Char × List Char)
  | [] => none
  | c :: rest =>
    match afterKeyword? (c :: rest) with
    | some value => some ([], value)
    | none => (cut? rest).map fun cut => (c :: cut.1, cut.2)

def find? (s : List Char) : Option LangTag :=
  (cut? s).map fun cut => ⟨trimEnd cut.1, cut.2.takeWhile isInk, cut.2.dropWhile isInk⟩

def remaining (tag : LangTag) : List Char := tag.before ++ tag.after

end LangTag

end CodeFigure
