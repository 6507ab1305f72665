/-
  CodeFigure/Directive/Grammar.lean
  =================================
  **The form of directives, said without reading them.**

  `Opens source params rest` is the form of the opening tag and `Closes rest
  inner` that of the closing tag.  A source is a directive when it has both; what
  stands between them is the body, with one line feed at each end that belongs
  to the tag next to it.
-/
import CodeFigure.Directive.Parse
import CodeFigure.Text.Token

namespace CodeFigure.Directive

open CodeFigure.Text

/-- `source` is an opening tag that holds `params`, with blanks before it, and
    then `rest`.  The name of the tag ends at its last letter, and the tag ends
    at the first `%`. -/
def Opens (source params rest : List Char) : Prop :=
  ∃ lead gap, IsBlankText lead ∧ IsBlankText gap ∧
    source = lead ++ "\x7b%".toList ++ gap ++ "codeblock".toList ++ params ++ "%\x7d".toList ++ rest ∧
    startsWord params = false ∧ '%' ∉ params

/-- `rest` is `inner` and then a closing tag, with blanks after it. -/
def Closes (rest inner : List Char) : Prop :=
  ∃ gap gap' tail, IsBlankText gap ∧ IsBlankText gap' ∧ IsBlankText tail ∧
    rest = inner ++ "\x7b%".toList ++ gap ++ "endcodeblock".toList ++ gap' ++ "%\x7d".toList ++ tail

/-- `shorter` is `s` without the line feed at its start, if it has one there. -/
def IsWithoutLineFeed (s shorter : List Char) : Prop :=
  s = '\n' :: shorter ∨ (s.head? ≠ some '\n' ∧ shorter = s)

/-- `shorter` is `s` without the line feed at its end, if it has one there. -/
def IsWithoutFinalLineFeed (s shorter : List Char) : Prop :=
  s = shorter ++ ['\n'] ∨ (s.getLast? ≠ some '\n' ∧ shorter = s)

/-- What is written as `inner` between the tags is the body `body`. -/
def Holds (inner body : List Char) : Prop :=
  ∃ middle, IsWithoutLineFeed inner middle ∧ IsWithoutFinalLineFeed middle body

theorem dropLineFeed_eq_iff {s shorter : List Char} :
    dropLineFeed s = shorter ↔ IsWithoutLineFeed s shorter := by
  unfold dropLineFeed IsWithoutLineFeed
  split
  · simp [eq_comm]
  · next h =>
    cases s with
    | nil => simp [eq_comm]
    | cons c rest =>
      have hc : c ≠ '\n' := fun e => h rest (by rw [e])
      simp [hc, eq_comm]

theorem dropFinalLineFeed_eq_iff {s shorter : List Char} :
    dropFinalLineFeed s = shorter ↔ IsWithoutFinalLineFeed s shorter := by
  rw [dropFinalLineFeed, List.reverse_eq_iff, dropLineFeed_eq_iff]
  simp only [IsWithoutLineFeed, IsWithoutFinalLineFeed, List.head?_reverse, List.reverse_inj]
  rw [List.reverse_eq_iff, List.reverse_cons, List.reverse_reverse]

/-- The body is what is left when the line feeds of the tags are gone. -/
theorem bodyOf_eq_iff {inner body : List Char} : bodyOf inner = body ↔ Holds inner body := by
  rw [bodyOf, dropFinalLineFeed_eq_iff]
  simp only [Holds]
  constructor
  · intro h
    exact ⟨dropLineFeed inner, dropLineFeed_eq_iff.1 rfl, h⟩
  · rintro ⟨middle, first, final⟩
    rwa [dropLineFeed_eq_iff.2 first]

end CodeFigure.Directive
