/-
  CodeFigure/Proofs/Text/Occurrence.lean
  ======================================
  **A fixed text occurs on one side of a separator.**

  A text `p` that does not contain the character `c` cannot reach across it, so
  it occurs in `a ++ c :: b` exactly when it occurs in `a` or in `b`
  (`infix_append_cons_iff`), and in lines that are joined exactly when it occurs
  in one of them (`infix_intercalate_iff`).
-/
namespace CodeFigure.Text

section

variable {α : Type} {p : List α} {c : α}

theorem prefix_append_cons_iff (hc : c ∉ p) (a b : List α) : p <+: a ++ c :: b ↔ p <+: a := by
  induction a generalizing p with
  | nil =>
    cases p with
    | nil => simp
    | cons d p =>
      have hd : d ≠ c := by
        rintro rfl
        exact hc List.mem_cons_self
      simp [hd]
  | cons e a ih =>
    cases p with
    | nil => simp
    | cons d p =>
      have hp : c ∉ p := fun h => hc (List.mem_cons_of_mem d h)
      rw [List.cons_append, List.cons_prefix_cons, List.cons_prefix_cons, ih hp]

theorem infix_append_cons_iff (hc : c ∉ p) (a b : List α) :
    p <:+: a ++ c :: b ↔ p <:+: a ∨ p <:+: b := by
  induction a with
  | nil =>
    have hnil : p <+: c :: b ↔ p = [] := by
      rw [← List.nil_append (c :: b), prefix_append_cons_iff hc [], List.prefix_nil]
    rw [List.nil_append, List.infix_cons_iff, hnil, List.infix_nil]
  | cons d a ih =>
    have hpre : p <+: d :: (a ++ c :: b) ↔ p <+: d :: a :=
      prefix_append_cons_iff hc (d :: a) b
    rw [List.cons_append, List.infix_cons_iff, List.infix_cons_iff, hpre, ih, or_assoc]

end

/-- **Joining lines makes no text that none of them has.** -/
theorem infix_intercalate_iff {p : List Char} (hne : p ≠ []) (hline : '\n' ∉ p)
    (lines : List String) :
    p <:+: (String.intercalate "\n" lines).toList ↔ ∃ line ∈ lines, p <:+: line.toList := by
  induction lines with
  | nil => simp [hne]
  | cons line lines ih =>
    cases lines with
    | nil => simp
    | cons next lines =>
      rw [String.intercalate_cons_cons, String.toList_append, String.toList_append,
        List.append_assoc]
      have hsplit := infix_append_cons_iff hline line.toList
        (String.intercalate "\n" (next :: lines)).toList
      refine hsplit.trans ?_
      rw [ih]
      simp

end CodeFigure.Text
