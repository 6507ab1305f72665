/-
  CodeFigure/Caption/Extension.lean
  =================================
  **The file extension a caption mentions.**

  A caption often names the file it shows, so a dot between two word characters
  is read as the start of an extension.  The last such dot counts, and the
  extension is the whole word after it: `see lib/a.tar.gz, line 3` mentions
  `gz`, and `v1.0 of it.` mentions `0`.
-/
import CodeFigure.Text.Word

namespace CodeFigure.Caption

open CodeFigure.Text

/-- The word after a dot at the start of a text. -/
def dottedWord? : List Char → Option (List Char)
  | '.' :: rest => if startsWord rest then some (rest.takeWhile isWord) else none
  | _ => none

/-- The word after the last dot that stands between two word characters. -/
def extension? : List Char → Option (List Char)
  | [] => none
  | c :: rest =>
    match extension? rest with
    | some word => some word
    | none => if isWord c then dottedWord? rest else none

end CodeFigure.Caption
