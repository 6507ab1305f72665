/-
  CodeFigure/Proofs/Text/Numerals.lean
  ====================================
  **What a run of digits is worth, and when it is too much.**

  `Nat.ofDigitChars 10` gives the value of a run of ASCII digits of any length.
  `readBounded` reads the same run from the left and gives up at the first digit
  that takes it over the bound.  A value never shrinks when digits are added, so
  giving up early decides nothing that the whole run would decide otherwise:

    * `readBounded_eq_ok_iff`     — the run is read iff it consists of ASCII
      digits and its value is within the bound;
    * `readBounded_eq_invalid_iff` — a character without a value is the reason
      iff the digits in front of the first one are within the bound.

  Digits of any script are ink, which the two tables decide
  (`isBlank_of_isDecimalDigit`).  A number that is written has ASCII digits only, and
  another number is written with others (`decimal_inj`).
-/
import CodeFigure.Proofs.Text.Folding
import CodeFigure.Text.Digit

namespace CodeFigure.Text

/-! ### Digits are ink -/

/-- No interval of one set meets an interval of the other. -/
def CharSet.Apart (a b : CharSet) : Prop :=
  ∀ i ∈ a.intervals, ∀ j ∈ b.intervals, i.2 < j.1 ∨ j.2 < i.1

instance (a b : CharSet) : Decidable (a.Apart b) :=
  inferInstanceAs (Decidable (∀ i ∈ a.intervals, ∀ j ∈ b.intervals, i.2 < j.1 ∨ j.2 < i.1))

theorem CharSet.contains_eq_false_of_apart {a b : CharSet} (h : a.Apart b) {c : Char}
    (ha : a.contains c = true) : b.contains c = false := by
  apply Bool.eq_false_iff.mpr
  intro hb
  obtain ⟨i, hi, hilow, hihigh⟩ := CharSet.contains_iff.mp ha
  obtain ⟨j, hj, hjlow, hjhigh⟩ := CharSet.contains_iff.mp hb
  rcases h i hi j hj with hbelow | habove
  · omega
  · omega

theorem apart_digits_blanks : digitsBeyondAscii.Apart blanks := by decide

theorem isBlank_of_isDigit {c : Char} (hc : c.isDigit = true) : isBlank c = false := by
  obtain ⟨hlow, hhigh⟩ := (Bool.and_eq_true ..).mp hc
  have hlow : 48 ≤ c.toNat := UInt32.le_iff_toNat_le.mp (of_decide_eq_true hlow)
  have hhigh : c.toNat ≤ 57 := UInt32.le_iff_toNat_le.mp (of_decide_eq_true hhigh)
  exact isBlank_of_printable (by omega) (by omega)

theorem isBlank_of_isDecimalDigit {c : Char} (hc : isDecimalDigit c = true) : isBlank c = false := by
  unfold isDecimalDigit inClass at hc
  split at hc
  · exact isBlank_of_isDigit hc
  · exact CharSet.contains_eq_false_of_apart apart_digits_blanks hc

theorem isDigit_of_mem_decimal {n : Nat} {c : Char} (hc : c ∈ decimal n) : c.isDigit = true :=
  Nat.isDigit_of_mem_toDigits (by decide) (by decide) hc

theorem not_mem_decimal {c : Char} (hc : c.isDigit = false) (n : Nat) : c ∉ decimal n := by
  intro hmem
  cases hc.symm.trans (isDigit_of_mem_decimal hmem)

theorem isInkText_decimal (n : Nat) : IsInkText (decimal n) := by
  intro c hc
  exact isBlank_of_isDigit (isDigit_of_mem_decimal hc)

/-! ### Values -/

theorem decimal_inj {m n : Nat} (hsame : decimal m = decimal n) : m = n := by
  have hvalue := congrArg (Nat.ofDigitChars 10 · 0) hsame
  simpa only [decimal, Nat.ofDigitChars_ten_toDigits] using hvalue

/-- A minus sign is no digit, so it tells the sign. -/
theorem signedDecimal_inj {i j : Int} (hsame : signedDecimal i = signedDecimal j) : i = j := by
  have hminus {m n : Nat} : decimal m ≠ '-' :: decimal n := by
    intro hsign
    have hnot : '-' ∉ decimal m := not_mem_decimal (by decide) m
    rw [hsign] at hnot
    exact hnot List.mem_cons_self
  cases i with
  | ofNat m =>
    cases j with
    | ofNat n => exact congrArg Int.ofNat (decimal_inj hsame)
    | negSucc n => exact absurd hsame hminus
  | negSucc m =>
    cases j with
    | ofNat n => exact absurd hsame.symm hminus
    | negSucc n =>
      have hvalue := decimal_inj (List.cons.inj hsame).2
      exact congrArg Int.negSucc (Nat.succ.inj hvalue)

theorem le_ofDigitChars (digits : List Char) (value : Nat) :
    value ≤ Nat.ofDigitChars 10 digits value := by
  induction digits generalizing value with
  | nil => exact Nat.le_refl value
  | cons c rest ih =>
    rw [Nat.ofDigitChars_cons]
    exact Nat.le_trans (by omega) (ih _)

/-! ### Reading within a bound -/

variable {bound value n : Nat} {digits : List Char}

theorem readBoundedFrom_cons_of_isDigit {c : Char} (hc : c.isDigit = true) (rest : List Char) :
    readBoundedFrom bound value (c :: rest) =
      if 10 * value + digitValue c ≤ bound then
        readBoundedFrom bound (10 * value + digitValue c) rest
      else .error .tooLarge := by
  rw [readBoundedFrom, if_pos hc]

theorem readBoundedFrom_eq_ok_iff (hvalue : value ≤ bound) :
    readBoundedFrom bound value digits = .ok n ↔
      (∀ c ∈ digits, c.isDigit = true) ∧ Nat.ofDigitChars 10 digits value = n ∧ n ≤ bound := by
  induction digits generalizing value with
  | nil =>
    simp only [readBoundedFrom, Except.ok.injEq, List.not_mem_nil, Nat.ofDigitChars_nil]
    constructor
    · rintro rfl
      exact ⟨fun c hc => absurd hc (by simp), rfl, hvalue⟩
    · rintro ⟨-, rfl, -⟩
      rfl
  | cons c rest ih =>
    by_cases hc : c.isDigit = true
    · rw [readBoundedFrom_cons_of_isDigit hc, Nat.ofDigitChars_cons]
      by_cases hnext : 10 * value + digitValue c ≤ bound
      · rw [if_pos hnext, ih hnext]
        simp [hc, digitValue]
      · rw [if_neg hnext]
        constructor
        · intro hread
          cases hread
        · -- the digits that follow do not make the value smaller
          rintro ⟨-, rfl, hn⟩
          exact absurd (Nat.le_trans (le_ofDigitChars rest _) hn) hnext
    · rw [readBoundedFrom, if_neg hc]
      simp [hc]

theorem readBoundedFrom_eq_invalid_iff (hvalue : value ≤ bound) :
    readBoundedFrom bound value digits = .error .invalidDigit ↔
      (∃ c ∈ digits, c.isDigit = false) ∧
        Nat.ofDigitChars 10 (digits.takeWhile Char.isDigit) value ≤ bound := by
  induction digits generalizing value with
  | nil => simp [readBoundedFrom]
  | cons c rest ih =>
    by_cases hc : c.isDigit = true
    · rw [readBoundedFrom_cons_of_isDigit hc, List.takeWhile_cons_of_pos hc, Nat.ofDigitChars_cons]
      by_cases hnext : 10 * value + digitValue c ≤ bound
      · rw [if_pos hnext, ih hnext]
        simp [hc, digitValue]
      · rw [if_neg hnext]
        constructor
        · intro hread
          cases hread
        · rintro ⟨-, hn⟩
          exact absurd (Nat.le_trans (le_ofDigitChars _ _) hn) hnext
    · rw [readBoundedFrom, if_neg hc, List.takeWhile_cons_of_neg hc]
      simp [hc, hvalue]

theorem readBounded_eq_ok_iff :
    readBounded bound digits = .ok n ↔
      (∀ c ∈ digits, c.isDigit = true) ∧ Nat.ofDigitChars 10 digits 0 = n ∧ n ≤ bound :=
  readBoundedFrom_eq_ok_iff (Nat.zero_le bound)

theorem readBounded_eq_invalid_iff :
    readBounded bound digits = .error .invalidDigit ↔
      (∃ c ∈ digits, c.isDigit = false) ∧
        Nat.ofDigitChars 10 (digits.takeWhile Char.isDigit) 0 ≤ bound :=
  readBoundedFrom_eq_invalid_iff (Nat.zero_le bound)

end CodeFigure.Text
