/-
  CodeFigure/Text/Lead.lean
  =========================
  **Reading a fixed text off the front.**

  Every reader of the library takes its keywords and brackets off the front of
  the remaining characters in the same way: `after? lead s` is what follows
  `lead`, and it is there exactly when `s` starts with `lead`.

  Where letter case does not matter, characters are compared in a common form
  instead of as they are.  `afterForm?` has the form as a parameter, and `after?`
  is the case in which every character is its own.
-/
namespace CodeFigure.Text

/-- What follows, at the start of `s`, a text that is `lead` when each of its
    characters is put into its form. -/
def afterForm? (form : Char → Char) : List Char → List Char → Option (List Char)
  | [], s => some s
  | _ :: _, [] => none
  | k :: lead, c :: s => if form c = k then afterForm? form lead s else none

/-- What follows `lead` at the start of `s`, when `s` starts with it. -/
def after? (lead : String) (s : List Char) : Option (List Char) :=
  afterForm? id lead.toList s

/-- A text is read exactly where one of its form is written. -/
theorem afterForm?_eq_some_iff {form : Char → Char} {lead s rest : List Char} :
    afterForm? form lead s = some rest ↔
      ∃ written, written.map form = lead ∧ s = written ++ rest := by
  induction lead generalizing s with
  | nil => simp [afterForm?, eq_comm]
  | cons k lead ih =>
    cases s with
    | nil =>
      simp only [afterForm?, reduceCtorEq, false_iff, not_exists]
      rintro (_ | ⟨c, written⟩) ⟨forms, splits⟩ <;> simp at forms splits
    | cons c s =>
      simp only [afterForm?]
      split
      · next same =>
        rw [ih]
        constructor
        · rintro ⟨written, forms, rfl⟩
          exact ⟨c :: written, by simp [same, forms], rfl⟩
        · rintro ⟨_ | ⟨d, written⟩, forms, splits⟩
          · simp at forms
          · obtain ⟨rfl, rfl⟩ := List.cons.inj splits
            exact ⟨written, (List.cons.inj forms).2, rfl⟩
      · next differs =>
        simp only [reduceCtorEq, false_iff, not_exists]
        rintro (_ | ⟨d, written⟩) ⟨forms, splits⟩
        · simp at forms
        · obtain ⟨rfl, rfl⟩ := List.cons.inj splits
          exact differs (List.cons.inj forms).1

theorem after?_eq_some_iff {lead : String} {s rest : List Char} :
    after? lead s = some rest ↔ s = lead.toList ++ rest := by
  rw [after?, afterForm?_eq_some_iff]
  constructor
  · rintro ⟨written, forms, rfl⟩
    rw [← forms, List.map_id]
  · intro splits
    exact ⟨lead.toList, List.map_id _, splits⟩

theorem after?_append (lead : String) (rest : List Char) :
    after? lead (lead.toList ++ rest) = some rest :=
  after?_eq_some_iff.2 rfl

end CodeFigure.Text
