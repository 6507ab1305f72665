/-
  CodeFigure/Proofs/Text/Folding.lean
  ===================================
  **Keywords in any letter case hold no blanks.**

  Folding moves letters to letters, so a character is blank exactly when its
  folded form is (`isBlank_foldCase`).  A reader of a keyword without blanks
  therefore does not look past a blank, whatever letter case it accepts
  (`afterFolded?_append_blank`).
-/
import CodeFigure.Proofs.Text.Padding
import CodeFigure.Text.Fold

namespace CodeFigure.Text

/-! ### Folding -/

theorem toNat_of_isBlank {c : Char} (hc : isBlank c = true) : c.toNat ≤ 0x20 ∨ 0x85 ≤ c.toNat := by
  simp only [isBlank, blanks, CharSet.contains_cons_iff, CharSet.contains_nil_iff, or_false] at hc
  omega

theorem isBlank_of_printable {c : Char} (hlow : 0x20 < c.toNat) (hhigh : c.toNat < 0x85) :
    isBlank c = false := by
  cases hc : isBlank c with
  | false => rfl
  | true =>
    have hfar := toNat_of_isBlank hc
    omega

theorem toNat_toLower_of_upper {c : Char} (hupper : c.val ≥ 'A'.val ∧ c.val ≤ 'Z'.val) :
    c.toLower.toNat = c.toNat + 32 := by
  have hlower : c.toLower.val = c.val + 32 := congrArg Char.val (dif_pos hupper)
  have hsmall : c.val.toNat ≤ 90 := UInt32.le_iff_toNat_le.mp hupper.2
  change c.toLower.val.toNat = c.val.toNat + 32
  rw [hlower, UInt32.toNat_add]
  apply Nat.mod_eq_of_lt
  simp only [UInt32.reduceToNat]
  omega

theorem isBlank_toLower (c : Char) : isBlank c.toLower = isBlank c := by
  by_cases hupper : c.val ≥ 'A'.val ∧ c.val ≤ 'Z'.val
  · have hlow : 65 ≤ c.toNat := UInt32.le_iff_toNat_le.mp hupper.1
    have hhigh : c.toNat ≤ 90 := UInt32.le_iff_toNat_le.mp hupper.2
    have hlower := toNat_toLower_of_upper hupper
    rw [isBlank_of_printable (by omega) (by omega), isBlank_of_printable (by omega) (by omega)]
  · have hsame : c.toLower = c := dif_neg hupper
    rw [hsame]

theorem isBlank_foldCase (c : Char) : isBlank (foldCase c) = isBlank c := by
  unfold foldCase
  split
  · next hlong =>
    rw [hlong]
    decide
  · split
    · next hkelvin =>
      rw [hkelvin]
      decide
    · exact isBlank_toLower c

/-! ### Reading up to a blank -/

/-- A reader stops at a character that no character of its keyword is a form of. -/
theorem afterForm?_append_cons {form : Char → Char} {lead : List Char} {b : Char}
    (hb : form b ∉ lead) (s t : List Char) :
    afterForm? form lead (s ++ b :: t) = (afterForm? form lead s).map (· ++ b :: t) := by
  induction lead generalizing s with
  | nil => rfl
  | cons k lead ih =>
    have hne : form b ≠ k := List.ne_of_not_mem_cons hb
    have hrest : form b ∉ lead := List.not_mem_of_not_mem_cons hb
    cases s with
    | nil => simp only [List.nil_append, afterForm?, if_neg hne, Option.map_none]
    | cons c s =>
      rw [List.cons_append, afterForm?, afterForm?]
      split
      · exact ih hrest s
      · rfl

theorem afterFolded?_append_blank {keyword : String} (hkeyword : IsInkText keyword.toList) {b : Char}
    (hb : isBlank b = true) (s t : List Char) :
    afterFolded? keyword (s ++ b :: t) = (afterFolded? keyword s).map (· ++ b :: t) := by
  apply afterForm?_append_cons
  intro hmem
  have hink := hkeyword _ hmem
  rw [isBlank_foldCase, hb] at hink
  exact absurd hink (by decide)

end CodeFigure.Text
