/-
  CodeFigure/Text/CharSet.lean
  ============================
  **Sets of characters given by intervals of code points.**

  The character classes of the library (white space, word characters, digits,
  …) are properties of Unicode, and Unicode publishes them as intervals.  A
  `CharSet` keeps that form, so a class is a table that can be compared with
  the standard line by line, and membership is one definition for all of them.
-/
namespace CodeFigure.Text

/-- A set of characters: the intervals of code points, both ends included, that
    it is made of. -/
structure CharSet where
  intervals : List (Nat × Nat)
deriving DecidableEq, Repr

def CharSet.contains (set : CharSet) (c : Char) : Bool :=
  set.intervals.any fun interval =>
    decide (interval.1 ≤ c.toNat) && decide (c.toNat ≤ interval.2)

theorem CharSet.contains_iff {set : CharSet} {c : Char} :
    set.contains c = true ↔ ∃ i ∈ set.intervals, i.1 ≤ c.toNat ∧ c.toNat ≤ i.2 := by
  simp only [CharSet.contains, List.any_eq_true, Bool.and_eq_true, decide_eq_true_eq]

theorem CharSet.contains_nil_iff {c : Char} : (⟨[]⟩ : CharSet).contains c = true ↔ False :=
  iff_of_false Bool.false_ne_true not_false

/-- Rewritten with this, a membership becomes inequations between numbers. -/
theorem CharSet.contains_cons_iff {low high : Nat} {rest : List (Nat × Nat)} {c : Char} :
    (⟨(low, high) :: rest⟩ : CharSet).contains c = true ↔
      low ≤ c.toNat ∧ c.toNat ≤ high ∨ (⟨rest⟩ : CharSet).contains c = true := by
  simp only [CharSet.contains, List.any_cons, Bool.or_eq_true, Bool.and_eq_true, decide_eq_true_eq]

/-- `c` belongs to the class that holds these ASCII characters and, from U+0080
    on, those of the set. -/
def inClass (ascii : Char → Bool) (beyond : CharSet) (c : Char) : Bool :=
  if c.toNat < 0x80 then ascii c else beyond.contains c

theorem inClass_of_lt {ascii : Char → Bool} {beyond : CharSet} {c : Char} (h : c.toNat < 0x80) :
    inClass ascii beyond c = ascii c := if_pos h

/-- ASCII letters and digits are ASCII. -/
theorem toNat_lt_of_isAlphanum {c : Char} (h : c.isAlphanum = true) : c.toNat < 0x80 := by
  have both {p q : Prop} [Decidable p] [Decidable q] (h : (decide p && decide q) = true) : p ∧ q :=
    ((Bool.and_eq_true ..).mp h).imp of_decide_eq_true of_decide_eq_true
  have below (first last : Char) (within : c.val ≥ first.val ∧ c.val ≤ last.val)
      (ascii : last.toNat < 0x80) : c.toNat < 0x80 :=
    Nat.lt_of_le_of_lt (UInt32.le_iff_toNat_le.1 within.2) ascii
  have letterOrDigit : c.isAlpha = true ∨ c.isDigit = true := (Bool.or_eq_true ..).mp h
  obtain letter | digit := letterOrDigit
  · have upperOrLower : c.isUpper = true ∨ c.isLower = true := (Bool.or_eq_true ..).mp letter
    obtain upper | lower := upperOrLower
    · exact below 'A' 'Z' (of_decide_eq_true upper) (by decide)
    · exact below 'a' 'z' (both lower) (by decide)
  · exact below '0' '9' (both digit) (by decide)

end CodeFigure.Text
