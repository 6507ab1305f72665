/-
  CodeFigure/Caption/Address.lean
  ===============================
  **Which tokens are addresses.**

  A caption may carry a link, and nothing marks it: a token is taken for an
  address by its shape alone.  An address is either absolute, `http://` or
  `https://` in any letter case with something after it, or relative to the
  site's root, `/` with something after it.
-/
import CodeFigure.Text.Blank
import CodeFigure.Text.Fold

namespace CodeFigure.Caption

open CodeFigure.Text

/-- What follows the mark of an address (`http://`, `https://` or `/`) at the
    start of a text. -/
def afterMark? : List Char → Option (List Char)
  | '/' :: rest => some rest
  | s => (afterFolded? "http://" s).or (afterFolded? "https://" s)

/-- The first token of `s` starts at its first character and is an address. -/
def startsAddress (s : List Char) : Bool :=
  match afterMark? s with
  | some (c :: _) => isInk c
  | _ => false

end CodeFigure.Caption
