/-
  CodeFigure/Markup/Comment.lean
  ==============================
  **Where comments end.**

  In HTML a comment starts with `<!--` and ends at the first `-->` or `--!>`,
  whatever is between.  `comment?` takes a comment off the front of a text, so it
  tells what a page makes of it.

  The first of the two marks is kept out of a comment by writing its `>` as an
  entity (`Disarmed`).
-/
import CodeFigure.Text.Lead

namespace CodeFigure.Markup

open CodeFigure.Text

/-- What follows the end of a comment at the start of a text. -/
def afterCommentEnd? (s : List Char) : Option (List Char) :=
  (after? "-->" s).or (after? "--!>" s)

/-- Cut a text behind the first end of a comment: what is in the comment, and
    what follows it. -/
def cutAtCommentEnd? : List Char → Option (List Char × List Char)
  | [] => none
  | c :: rest =>
    match afterCommentEnd? (c :: rest) with
    | some left => some ([], left)
    | none => (cutAtCommentEnd? rest).map fun cut => (c :: cut.1, cut.2)

/-- The comment at the start of `s`, and what follows it. -/
def comment? (s : List Char) : Option (List Char × List Char) :=
  (after? "<!--" s).bind cutAtCommentEnd?

/-- The second text is the first with every `-->` written as `--&gt;`: these stand
    between parts that are left as they are, and none of the parts holds another. -/
inductive Disarmed : List Char → List Char → Prop
  | plain {part : List Char} (hpart : ¬ "-->".toList <:+: part) : Disarmed part part
  | arrow {part s written : List Char} (hpart : ¬ "-->".toList <:+: part)
      (hrest : Disarmed s written) :
      Disarmed (part ++ "-->".toList ++ s) (part ++ "--&gt;".toList ++ written)

end CodeFigure.Markup
