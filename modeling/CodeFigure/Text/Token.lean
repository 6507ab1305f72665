/-
  CodeFigure/Text/Token.lean
  ==========================
  **Tokens, said without reading them.**

  The tokens of a text are its longest runs of characters that are not blank.
  `IsToken before token after` says that a text which is cut into these three
  parts has the middle one as a token: the run cannot be made longer on either
  side.
-/
import CodeFigure.Text.Blank

namespace CodeFigure.Text

def IsBlankText (s : List Char) : Prop := ∀ c ∈ s, isBlank c = true

def IsInkText (s : List Char) : Prop := ∀ c ∈ s, isBlank c = false

/-- Between `before` and `after`, `token` is a whole run of characters that are
    not blank. -/
structure IsToken (before token after : List Char) : Prop where
  nonempty : token ≠ []
  ink : IsInkText token
  /-- The run does not reach into what precedes it. -/
  blankBefore : ∀ c ∈ before.getLast?, isBlank c = true
  /-- The run does not reach into what follows it. -/
  blankAfter : ∀ c ∈ after.head?, isBlank c = true

theorem allBlank_eq_true_iff {s : List Char} : allBlank s = true ↔ IsBlankText s := by
  simp [allBlank, IsBlankText, List.all_eq_true]

theorem all_isInk_eq_true_iff {s : List Char} : s.all isInk = true ↔ IsInkText s := by
  simp [IsInkText, List.all_eq_true, isInk_eq_true_iff]

/-- The first run of a text that starts with a character that is not blank is
    cut off by `takeWhile` and `dropWhile`. -/
theorem isToken_takeWhile {c : Char} {rest : List Char} (h : isInk c = true) :
    IsToken [] ((c :: rest).takeWhile isInk) ((c :: rest).dropWhile isInk) where
  nonempty := by simp [h]
  ink d hd := isInk_eq_true_iff.1 (List.all_eq_true.1 List.all_takeWhile d hd)
  blankBefore := by simp
  blankAfter d hd := by
    cases e : (c :: rest).dropWhile isInk with
    | nil => simp [e] at hd
    | cons a r =>
      have ha : isInk a = false := head_dropWhile_eq_false e
      simp only [e, List.head?_cons, Option.mem_def, Option.some.injEq] at hd
      subst hd
      simpa [isInk] using ha

end CodeFigure.Text
