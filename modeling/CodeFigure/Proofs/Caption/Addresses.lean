/-
  CodeFigure/Proofs/Caption/Addresses.lean
  ========================================
  **Which texts start with an address, and where the last one is.**

  The test for an address is the shape `IsAddress` on a text without blanks
  (`startsAddress_iff_isAddress`).  Neither the test nor the search for the last
  address looks past a blank: in a text with a blank in it the part from the blank
  on is searched first, and the part in front of it only when nothing is found
  there (`cutAtLastAddress?_append_blank`).  What is found is the last place behind a
  blank where an address starts (`cutAtLastAddress?_eq_some_iff`).
-/
import CodeFigure.Caption.Reading
import CodeFigure.Proofs.Text.Folding

namespace CodeFigure.Caption

open CodeFigure.Text

/-! ### Marks -/

/-- No text starts with two marks. -/
theorem afterFolded?_https_of_http {s rest : List Char}
    (hhttp : afterFolded? "http://" s = some rest) : afterFolded? "https://" s = none := by
  rw [Option.eq_none_iff_forall_not_mem]
  intro rest' hhttps
  obtain ⟨mark, hmark, hsplit⟩ := afterFolded?_eq_some_iff.mp hhttp
  obtain ⟨mark', hmark', hsplit'⟩ := afterFolded?_eq_some_iff.mp hhttps
  -- the fifth characters differ
  have hmap := congrArg (List.map foldCase) (hsplit.symm.trans hsplit')
  rw [List.map_append, List.map_append, hmark, hmark'] at hmap
  have htake := congrArg (List.take 5) hmap
  rw [List.take_append_of_le_length (by decide), List.take_append_of_le_length (by decide)] at htake
  exact absurd htake (by decide)

theorem afterMark?_eq_or {s : List Char} (hs : s.head? ≠ some '/') :
    afterMark? s = (afterFolded? "http://" s).or (afterFolded? "https://" s) := by
  unfold afterMark?
  split
  · exact absurd rfl hs
  · rfl

theorem afterMark?_eq_some_iff {s rest : List Char} :
    afterMark? s = some rest ↔ ∃ mark, IsMark mark ∧ s = mark ++ rest := by
  by_cases hs : s.head? = some '/'
  · obtain ⟨behind, rfl⟩ := List.head?_eq_some_iff.mp hs
    have hhttp : afterFolded? "http://" ('/' :: behind) = none := rfl
    have hhttps : afterFolded? "https://" ('/' :: behind) = none := rfl
    constructor
    · intro hafter
      cases hafter
      exact ⟨['/'], Or.inl rfl, rfl⟩
    · rintro ⟨mark, rfl | hmark | hmark, hsplit⟩
      · rw [(List.cons.inj hsplit).2]
        rfl
      · rw [afterFolded?_eq_some_iff.mpr ⟨mark, hmark, hsplit⟩] at hhttp
        cases hhttp
      · rw [afterFolded?_eq_some_iff.mpr ⟨mark, hmark, hsplit⟩] at hhttps
        cases hhttps
  · rw [afterMark?_eq_or hs, Option.or_eq_some_iff]
    constructor
    · rintro (hafter | ⟨-, hafter⟩)
      · obtain ⟨mark, hmark, hsplit⟩ := afterFolded?_eq_some_iff.mp hafter
        exact ⟨mark, Or.inr (Or.inl hmark), hsplit⟩
      · obtain ⟨mark, hmark, hsplit⟩ := afterFolded?_eq_some_iff.mp hafter
        exact ⟨mark, Or.inr (Or.inr hmark), hsplit⟩
    · rintro ⟨mark, rfl | hmark | hmark, hsplit⟩
      · rw [hsplit] at hs
        exact absurd rfl hs
      · exact Or.inl (afterFolded?_eq_some_iff.mpr ⟨mark, hmark, hsplit⟩)
      · have hafter := afterFolded?_eq_some_iff.mpr ⟨mark, hmark, hsplit⟩
        refine Or.inr ⟨?_, hafter⟩
        rw [Option.eq_none_iff_forall_not_mem]
        intro rest' hhttp
        rw [afterFolded?_https_of_http hhttp] at hafter
        cases hafter

/-! ### Addresses -/

theorem startsAddress_iff {s : List Char} :
    startsAddress s = true ↔
      ∃ mark rest, IsMark mark ∧ (∃ c ∈ rest.head?, isBlank c = false) ∧ s = mark ++ rest := by
  unfold startsAddress
  constructor
  · intro hstarts
    split at hstarts
    · next c rest hafter =>
      obtain ⟨mark, hmark, hsplit⟩ := afterMark?_eq_some_iff.mp hafter
      exact ⟨mark, c :: rest, hmark, ⟨c, rfl, isInk_eq_true_iff.mp hstarts⟩, hsplit⟩
    · cases hstarts
  · rintro ⟨mark, rest, hmark, ⟨c, hc, hink⟩, hsplit⟩
    rw [afterMark?_eq_some_iff.mpr ⟨mark, hmark, hsplit⟩]
    obtain ⟨rest', rfl⟩ := List.head?_eq_some_iff.mp hc
    exact isInk_eq_true_iff.mpr hink

/-- **The shape of an address is what is tested.** -/
theorem startsAddress_iff_isAddress {s : List Char} (hs : IsInkText s) :
    startsAddress s = true ↔ IsAddress s := by
  rw [startsAddress_iff]
  constructor
  · rintro ⟨mark, rest, hmark, ⟨c, hc, -⟩, hsplit⟩
    refine ⟨mark, rest, hmark, ?_, hsplit⟩
    rintro rfl
    cases hc
  · rintro ⟨mark, rest, hmark, hrest, hsplit⟩
    obtain ⟨c, behind, rfl⟩ := List.exists_cons_of_ne_nil hrest
    refine ⟨mark, c :: behind, hmark, ⟨c, rfl, hs c ?_⟩, hsplit⟩
    rw [hsplit]
    exact List.mem_append_right mark List.mem_cons_self

theorem afterMark?_append_blank {b : Char} (hb : isBlank b = true) (s t : List Char) :
    afterMark? (s ++ b :: t) = (afterMark? s).map (· ++ b :: t) := by
  by_cases hs : s.head? = some '/'
  · obtain ⟨behind, rfl⟩ := List.head?_eq_some_iff.mp hs
    rfl
  · have hs' : (s ++ b :: t).head? ≠ some '/' := by
      cases s with
      | nil =>
        intro hslash
        rw [Option.some.inj hslash] at hb
        exact absurd hb (by decide)
      | cons c s => exact hs
    rw [afterMark?_eq_or hs', afterMark?_eq_or hs,
      afterFolded?_append_blank (all_isInk_eq_true_iff.mp (by decide)) hb,
      afterFolded?_append_blank (all_isInk_eq_true_iff.mp (by decide)) hb, Option.map_or]

theorem startsAddress_append_blank {b : Char} (hb : isBlank b = true) (s t : List Char) :
    startsAddress (s ++ b :: t) = startsAddress s := by
  unfold startsAddress
  rw [afterMark?_append_blank hb]
  cases afterMark? s with
  | none => rfl
  | some rest =>
    cases rest with
    | nil => simp [isInk, hb]
    | cons c rest => rfl

theorem isInk_of_startsAddress {s : List Char} (hs : startsAddress s = true) :
    ∃ c rest, s = c :: rest ∧ isInk c = true := by
  cases s with
  | nil => cases hs
  | cons c rest =>
    refine ⟨c, rest, rfl, ?_⟩
    rw [isInk_eq_true_iff]
    by_cases hc : isBlank c = true
    · -- in front of a blank there is nothing to start an address
      have hnil : startsAddress ([] ++ c :: rest) = startsAddress [] :=
        startsAddress_append_blank hc [] rest
      rw [List.nil_append, hs] at hnil
      cases hnil
    · exact Bool.not_eq_true _ ▸ hc

/-! ### The last address -/

theorem cutAtLastAddress?_cons (c : Char) (s : List Char) :
    cutAtLastAddress? (c :: s) =
      match cutAtLastAddress? s with
      | some (before, link) => some (c :: before, link)
      | none => if isBlank c && startsAddress s then some ([c], s) else none := rfl

theorem cutAtLastAddress?_of_ink {s : List Char} (hs : IsInkText s) : cutAtLastAddress? s = none := by
  induction s with
  | nil => rfl
  | cons c s ih =>
    have hc : isBlank c = false := hs c List.mem_cons_self
    rw [cutAtLastAddress?_cons, ih fun d hd => hs d (List.mem_cons_of_mem c hd), hc]
    rfl

/-- **An address lies on one side of a blank.**  The search looks at the part from
    the blank on, and then in front of it. -/
theorem cutAtLastAddress?_append_blank {b : Char} (hb : isBlank b = true) (s t : List Char) :
    cutAtLastAddress? (s ++ b :: t) =
      match cutAtLastAddress? (b :: t) with
      | some (before, link) => some (s ++ before, link)
      | none => (cutAtLastAddress? s).map fun cut => (cut.1, cut.2 ++ b :: t) := by
  induction s with
  | nil => cases h : cutAtLastAddress? (b :: t) <;> simp [h, cutAtLastAddress?]
  | cons c s ih =>
    rw [List.cons_append, cutAtLastAddress?_cons, ih, cutAtLastAddress?_cons c s,
      startsAddress_append_blank hb]
    cases cutAtLastAddress? (b :: t) with
    | some cut => rfl
    | none =>
      cases cutAtLastAddress? s with
      | some cut => rfl
      | none =>
        simp only [Option.map_none]
        split
        · rfl
        · rfl

/-! ### Cuts -/

def EndsBlank (s : List Char) : Prop := ∃ c ∈ s.getLast?, isBlank c = true

theorem ne_nil_of_endsBlank {s : List Char} (hs : EndsBlank s) : s ≠ [] := by
  rintro rfl
  obtain ⟨c, hc, -⟩ := hs
  cases hc

theorem endsBlank_append_iff {s t : List Char} (ht : t ≠ []) :
    EndsBlank (s ++ t) ↔ EndsBlank t := by
  unfold EndsBlank
  rw [List.getLast?_append, List.getLast?_eq_some_getLast ht, Option.some_or]

theorem endsBlank_singleton_iff {c : Char} : EndsBlank [c] ↔ isBlank c = true := by
  simp [EndsBlank]

/-- An address starts behind `front`, which ends with a blank. -/
structure StartsAfterBlank (front back : List Char) : Prop where
  blank : EndsBlank front
  address : startsAddress back = true

def HasNoCut (s : List Char) : Prop :=
  ∀ front back, s = front ++ back → ¬ StartsAfterBlank front back

theorem startsAfterBlank_append_iff {s front back : List Char} (hfront : front ≠ []) :
    StartsAfterBlank (s ++ front) back ↔ StartsAfterBlank front back := by
  have hblank : EndsBlank (s ++ front) ↔ EndsBlank front := endsBlank_append_iff hfront
  constructor
  · rintro ⟨hends, haddress⟩
    exact ⟨hblank.mp hends, haddress⟩
  · rintro ⟨hends, haddress⟩
    exact ⟨hblank.mpr hends, haddress⟩

theorem hasNoCut_cons {c : Char} {s : List Char} (hfirst : ¬ StartsAfterBlank [c] s)
    (hnone : HasNoCut s) : HasNoCut (c :: s) := by
  intro front back hsplit hstarts
  rcases List.cons_eq_append_iff.mp hsplit with ⟨rfl, -⟩ | ⟨front, rfl, hrest⟩
  · exact ne_nil_of_endsBlank hstarts.blank rfl
  · by_cases hfront : front = []
    · subst hfront
      rw [List.nil_append] at hrest
      rw [← hrest] at hstarts
      exact hfirst hstarts
    · apply hnone front back hrest
      exact (startsAfterBlank_append_iff (s := [c]) hfront).mp hstarts

theorem hasNoCut_of_cutAtLastAddress? {s : List Char} (hcut : cutAtLastAddress? s = none) :
    HasNoCut s := by
  induction s with
  | nil =>
    intro front back hsplit hstarts
    exact ne_nil_of_endsBlank hstarts.blank (List.append_eq_nil_iff.mp hsplit.symm).1
  | cons c s ih =>
    rw [cutAtLastAddress?_cons] at hcut
    cases hrest : cutAtLastAddress? s with
    | some cut =>
      rw [hrest] at hcut
      cases hcut
    | none =>
      simp only [hrest, ite_eq_right_iff, reduceCtorEq, imp_false, Bool.and_eq_true] at hcut
      apply hasNoCut_cons _ (ih hrest)
      rintro ⟨hblank, haddress⟩
      exact hcut ⟨endsBlank_singleton_iff.mp hblank, haddress⟩

theorem startsAfterBlank_of_cutAtLastAddress? {s before link : List Char}
    (hcut : cutAtLastAddress? s = some (before, link)) :
    s = before ++ link ∧ StartsAfterBlank before link ∧ HasNoCut link := by
  induction s generalizing before with
  | nil => cases hcut
  | cons c s ih =>
    rw [cutAtLastAddress?_cons] at hcut
    cases hrest : cutAtLastAddress? s with
    | some cut =>
      rw [hrest] at hcut
      cases hcut
      obtain ⟨hsplit, hstarts, hnone⟩ := ih hrest
      have hne := ne_nil_of_endsBlank hstarts.blank
      refine ⟨congrArg (c :: ·) hsplit, ?_, hnone⟩
      exact (startsAfterBlank_append_iff (s := [c]) hne).mpr hstarts
    | none =>
      simp only [hrest, Option.ite_none_right_eq_some, Bool.and_eq_true, Option.some.injEq,
        Prod.mk.injEq] at hcut
      obtain ⟨⟨hblank, haddress⟩, rfl, rfl⟩ := hcut
      refine ⟨rfl, ⟨endsBlank_singleton_iff.mpr hblank, haddress⟩, ?_⟩
      exact hasNoCut_of_cutAtLastAddress? hrest

/-- A cut with no other behind it is no earlier than any other cut. -/
theorem eq_nil_of_hasNoCut_append {s before link : List Char} (hnone : HasNoCut (s ++ link))
    (hstarts : StartsAfterBlank (before ++ s) link) : s = [] := by
  by_cases hs : s = []
  · exact hs
  · exact absurd ((startsAfterBlank_append_iff hs).mp hstarts) (hnone s link rfl)

theorem cut_unique {before link before' link' : List Char}
    (hsame : before ++ link = before' ++ link')
    (hstarts : StartsAfterBlank before link) (hnone : HasNoCut link)
    (hstarts' : StartsAfterBlank before' link') (hnone' : HasNoCut link') :
    before = before' ∧ link = link' := by
  rcases List.append_eq_append_iff.mp hsame with ⟨between, hbefore, hlink⟩ | ⟨between, hbefore, hlink⟩
  · subst hbefore hlink
    obtain rfl := eq_nil_of_hasNoCut_append hnone hstarts'
    exact ⟨(List.append_nil before).symm, rfl⟩
  · subst hbefore hlink
    obtain rfl := eq_nil_of_hasNoCut_append hnone' hstarts
    exact ⟨List.append_nil before', rfl⟩

/-- **The search cuts at the last address behind a blank.** -/
theorem cutAtLastAddress?_eq_some_iff {s before link : List Char} :
    cutAtLastAddress? s = some (before, link) ↔
      s = before ++ link ∧ StartsAfterBlank before link ∧ HasNoCut link := by
  constructor
  · exact startsAfterBlank_of_cutAtLastAddress?
  · rintro ⟨hsplit, hstarts, hnone⟩
    cases hcut : cutAtLastAddress? s with
    | none => exact absurd hstarts (hasNoCut_of_cutAtLastAddress? hcut before link hsplit)
    | some cut =>
      obtain ⟨hsplit', hstarts', hnone'⟩ := startsAfterBlank_of_cutAtLastAddress? hcut
      obtain ⟨rfl, rfl⟩ :=
        cut_unique (hsplit.symm.trans hsplit') hstarts hnone hstarts' hnone'
      rfl

theorem cutAtLastAddress?_eq_none_iff {s : List Char} : cutAtLastAddress? s = none ↔ HasNoCut s := by
  constructor
  · exact hasNoCut_of_cutAtLastAddress?
  · intro hnone
    cases hcut : cutAtLastAddress? s with
    | none => rfl
    | some cut =>
      obtain ⟨hsplit, hstarts, -⟩ := cutAtLastAddress?_eq_some_iff.mp hcut
      exact absurd hstarts (hnone cut.1 cut.2 hsplit)

theorem cutAtLastAddress?_of_blank {s : List Char} (hs : IsBlankText s) :
    cutAtLastAddress? s = none := by
  rw [cutAtLastAddress?_eq_none_iff]
  rintro front back rfl ⟨-, haddress⟩
  obtain ⟨c, rest, rfl, hc⟩ := isInk_of_startsAddress haddress
  have hblank := hs c (by simp)
  rw [isInk, hblank] at hc
  cases hc

/-- Blanks behind a text stay behind the link. -/
theorem cutAtLastAddress?_append_of_blank (s : List Char) {tail : List Char}
    (htail : IsBlankText tail) :
    cutAtLastAddress? (s ++ tail) = (cutAtLastAddress? s).map fun cut => (cut.1, cut.2 ++ tail) := by
  cases tail with
  | nil => simp
  | cons b t =>
    rw [cutAtLastAddress?_append_blank (htail b List.mem_cons_self), cutAtLastAddress?_of_blank htail]

end CodeFigure.Caption
