/-
  CodeFigure/Params/TagPlace.lean
  ===============================
  **Where a language tag stands, said without searching for it.**

  A tag starts where a text that folds to `lang:` is written with a character
  behind it that is no blank.  The first tag of a text is the one in front of
  which no place starts one; the blanks before it belong to it, and so does the
  whole run of characters behind the keyword.
-/
import CodeFigure.Params.LangTag
import CodeFigure.Text.Token

namespace CodeFigure.LangTag

open CodeFigure.Text

/-- `written` is the keyword of a tag in some letter case. -/
def IsKeyword (written : List Char) : Prop := written.map foldCase = "lang:".toList

def StartsTag (s : List Char) : Prop :=
  ∃ keyword c rest, IsKeyword keyword ∧ isBlank c = false ∧ s = keyword ++ c :: rest

def HasTag (s : List Char) : Prop := ∃ before rest, s = before ++ rest ∧ StartsTag rest

/-- In the text `before ++ gap ++ keyword ++ value ++ after` the first tag
    consists of the parts between `before` and `after`. -/
structure IsFirst (before gap keyword value after : List Char) : Prop where
  isKeyword : IsKeyword keyword
  blankGap : IsBlankText gap
  /-- All blanks in front of the keyword are in the gap. -/
  inkBefore : ∀ c ∈ before.getLast?, isBlank c = false
  /-- The value is all of the run behind the keyword. -/
  wholeRun : IsToken [] value after
  /-- No tag starts any earlier. -/
  first : ∀ early late, early ++ late = before ++ gap ++ keyword ++ value ++ after →
    early.length < (before ++ gap).length → ¬ StartsTag late

end CodeFigure.LangTag
