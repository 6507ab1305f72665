/-
  CodeFigure/Text/Fold.lean
  =========================
  **Reading keywords in any letter case.**

  Two characters are the same letter when Unicode's simple case folding says so.
  For the letters of ASCII that joins the two cases, and two letters have a third
  form: the long s (U+017F) is an `s`, and the Kelvin sign (U+212A) is a `k`.

  Keywords of the library are written in ASCII, so folding is only ever compared
  with ASCII letters, and no other character folds to one.
-/
import CodeFigure.Text.Lead

namespace CodeFigure.Text

/-- The lower-case ASCII letter that `c` is a form of; any other `c` is itself. -/
def foldCase (c : Char) : Char :=
  if c = '\u017F' then 's' else if c = '\u212A' then 'k' else c.toLower

/-- What follows `keyword` at the start of `s`, whatever case it is written in. -/
def afterFolded? (keyword : String) (s : List Char) : Option (List Char) :=
  afterForm? foldCase keyword.toList s

/-- A keyword is read exactly where a text that folds to it is written. -/
theorem afterFolded?_eq_some_iff {keyword : String} {s rest : List Char} :
    afterFolded? keyword s = some rest ↔
      ∃ written, written.map foldCase = keyword.toList ∧ s = written ++ rest :=
  afterForm?_eq_some_iff

end CodeFigure.Text
