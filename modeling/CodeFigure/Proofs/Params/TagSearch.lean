/-
  CodeFigure/Proofs/Params/TagSearch.lean
  =======================================
  **The search for a language tag finds the first one.**

  `LangTag.cut?` walks over the characters and stops where a tag starts.  Here it
  is said what it finds: it fails exactly on the texts that have no tag
  (`cut?_eq_none_iff`), and where it cuts a tag starts and none starts any earlier
  (`cut?_eq_some_iff`).

  Neither the keyword nor the file type holds a blank, so no tag reaches over one:
  the search in a text with a blank in it is the search in front of the blank and
  then the search behind it (`cut?_append_blank`).  A tag behind blanks is found as
  soon as there is none in front of them (`cut?_tagged`).
-/
import CodeFigure.Params.Basic
import CodeFigure.Params.TagPlace
import CodeFigure.Proofs.Text.Folding

namespace CodeFigure

open CodeFigure.Text

namespace LangTag

/-! ### Where a tag starts -/

theorem isInkText_lang : IsInkText "lang:".toList :=
  all_isInk_eq_true_iff.mp (by decide)

theorem length_of_isKeyword {keyword : List Char} (hkeyword : IsKeyword keyword) :
    keyword.length = 5 := by
  have hlength := congrArg List.length hkeyword
  rw [List.length_map] at hlength
  exact hlength

theorem afterKeyword?_eq_some_iff {s value : List Char} :
    afterKeyword? s = some value ↔
      ∃ keyword, IsKeyword keyword ∧ (∃ c ∈ value.head?, isBlank c = false) ∧
        s = keyword ++ value := by
  unfold afterKeyword?
  constructor
  · intro hafter
    split at hafter
    · next c rest hread =>
      split at hafter
      · next hink =>
        cases hafter
        obtain ⟨keyword, hkeyword, hsplit⟩ := afterFolded?_eq_some_iff.mp hread
        exact ⟨keyword, hkeyword, ⟨c, rfl, isInk_eq_true_iff.mp hink⟩, hsplit⟩
      · cases hafter
    · cases hafter
  · rintro ⟨keyword, hkeyword, ⟨c, hc, hink⟩, hsplit⟩
    rw [afterFolded?_eq_some_iff.mpr ⟨keyword, hkeyword, hsplit⟩]
    obtain ⟨rest, rfl⟩ := List.head?_eq_some_iff.mp hc
    simp only
    rw [if_pos (isInk_eq_true_iff.mpr hink)]

theorem startsTag_iff {s : List Char} : StartsTag s ↔ ∃ value, afterKeyword? s = some value := by
  constructor
  · rintro ⟨keyword, c, rest, hkeyword, hink, hsplit⟩
    exact ⟨c :: rest, afterKeyword?_eq_some_iff.mpr ⟨keyword, hkeyword, ⟨c, rfl, hink⟩, hsplit⟩⟩
  · rintro ⟨value, hafter⟩
    obtain ⟨keyword, hkeyword, ⟨c, hc, hink⟩, hsplit⟩ := afterKeyword?_eq_some_iff.mp hafter
    obtain ⟨rest, rfl⟩ := List.head?_eq_some_iff.mp hc
    exact ⟨keyword, c, rest, hkeyword, hink, hsplit⟩

theorem afterKeyword?_eq_none_iff {s : List Char} : afterKeyword? s = none ↔ ¬ StartsTag s := by
  rw [startsTag_iff]
  cases afterKeyword? s with
  | none => simp
  | some value => simp

theorem not_startsTag_nil : ¬ StartsTag [] := afterKeyword?_eq_none_iff.mp rfl

/-! ### The first tag -/

theorem hasTag_cons_iff {c : Char} {s : List Char} :
    HasTag (c :: s) ↔ StartsTag (c :: s) ∨ HasTag s := by
  constructor
  · rintro ⟨before, rest, hsplit, hstarts⟩
    cases before with
    | nil =>
      rw [hsplit]
      exact Or.inl hstarts
    | cons d before => exact Or.inr ⟨before, rest, (List.cons.inj hsplit).2, hstarts⟩
  · rintro (hstarts | ⟨before, rest, hsplit, hstarts⟩)
    · exact ⟨[], c :: s, rfl, hstarts⟩
    · exact ⟨c :: before, rest, by rw [hsplit, List.cons_append], hstarts⟩

theorem cut?_cons (c : Char) (s : List Char) :
    cut? (c :: s) =
      match afterKeyword? (c :: s) with
      | some value => some ([], value)
      | none => (cut? s).map fun cut => (c :: cut.1, cut.2) := rfl

theorem isSome_cut?_iff {s : List Char} : (cut? s).isSome = true ↔ HasTag s := by
  induction s with
  | nil =>
    refine iff_of_false Bool.false_ne_true ?_
    rintro ⟨before, rest, hsplit, hstarts⟩
    obtain ⟨-, rfl⟩ := List.append_eq_nil_iff.mp hsplit.symm
    exact not_startsTag_nil hstarts
  | cons c s ih =>
    rw [hasTag_cons_iff, ← ih, startsTag_iff, cut?_cons]
    cases afterKeyword? (c :: s) with
    | none => simp
    | some value => simp

theorem hasTag_iff_exists_cut? {s : List Char} :
    HasTag s ↔ ∃ before rest, cut? s = some (before, rest) := by
  rw [← isSome_cut?_iff, Option.isSome_iff_exists, Prod.exists]

theorem cut?_eq_none_iff {s : List Char} : cut? s = none ↔ ¬ HasTag s := by
  rw [← isSome_cut?_iff, Bool.not_eq_true, Option.isSome_eq_false_iff, Option.isNone_iff_eq_none]

/-- In the text `before ++ keyword ++ rest` a tag starts behind `before`, and none
    starts any earlier. -/
structure IsFirstKeyword (before keyword rest : List Char) : Prop where
  isKeyword : IsKeyword keyword
  inkBehind : ∃ c ∈ rest.head?, isBlank c = false
  first : ∀ early late, early ++ late = before ++ keyword ++ rest →
    early.length < before.length → ¬ StartsTag late

theorem isFirstKeyword_nil {keyword rest : List Char} :
    IsFirstKeyword [] keyword rest ↔ IsKeyword keyword ∧ ∃ c ∈ rest.head?, isBlank c = false := by
  constructor
  · intro hfirst
    exact ⟨hfirst.isKeyword, hfirst.inkBehind⟩
  · rintro ⟨hkeyword, hink⟩
    exact ⟨hkeyword, hink, fun early late _ hlt => absurd hlt (Nat.not_lt_zero _)⟩

theorem isFirstKeyword_cons {c : Char} {before keyword rest : List Char} :
    IsFirstKeyword (c :: before) keyword rest ↔
      ¬ StartsTag (c :: (before ++ keyword ++ rest)) ∧ IsFirstKeyword before keyword rest := by
  constructor
  · intro hfirst
    refine ⟨?_, hfirst.isKeyword, hfirst.inkBehind, ?_⟩
    · exact hfirst.first [] _ rfl (Nat.succ_pos _)
    · intro early late hsplit hlt
      exact hfirst.first (c :: early) late (congrArg (c :: ·) hsplit) (Nat.succ_lt_succ hlt)
  · rintro ⟨hnot, hfirst⟩
    refine ⟨hfirst.isKeyword, hfirst.inkBehind, ?_⟩
    intro early late hsplit hlt
    cases early with
    | nil =>
      rw [List.nil_append] at hsplit
      rw [hsplit]
      exact hnot
    | cons d early =>
      exact hfirst.first early late (List.cons.inj hsplit).2 (Nat.lt_of_succ_lt_succ hlt)

/-- **The search cuts at the first tag.** -/
theorem cut?_eq_some_iff {s before rest : List Char} :
    cut? s = some (before, rest) ↔
      ∃ keyword, IsFirstKeyword before keyword rest ∧ s = before ++ keyword ++ rest := by
  induction s generalizing before with
  | nil =>
    simp only [cut?, reduceCtorEq, false_iff, not_exists, not_and]
    intro keyword hfirst hnil
    have hlength := congrArg List.length hnil
    have hkeyword := length_of_isKeyword hfirst.isKeyword
    simp only [List.length_nil, List.length_append] at hlength
    omega
  | cons c s ih =>
    rw [cut?_cons]
    cases hafter : afterKeyword? (c :: s) with
    | some value =>
      obtain ⟨keyword, hkeyword, hink, hsplit⟩ := afterKeyword?_eq_some_iff.mp hafter
      simp only [Option.some.injEq, Prod.mk.injEq]
      constructor
      · rintro ⟨rfl, rfl⟩
        exact ⟨keyword, isFirstKeyword_nil.mpr ⟨hkeyword, hink⟩, hsplit⟩
      · rintro ⟨keyword', hfirst, hsplit'⟩
        cases before with
        | nil =>
          have hafter' : afterKeyword? (c :: s) = some rest :=
            afterKeyword?_eq_some_iff.mpr
              ⟨keyword', hfirst.isKeyword, hfirst.inkBehind, hsplit'⟩
          rw [hafter] at hafter'
          exact ⟨rfl, Option.some.inj hafter'⟩
        | cons d before =>
          -- a tag starts at the front already
          refine absurd (startsTag_iff.mpr ⟨value, hafter⟩) ?_
          rw [hsplit']
          exact (isFirstKeyword_cons.mp hfirst).1
    | none =>
      have hnot := afterKeyword?_eq_none_iff.mp hafter
      simp only [Option.map_eq_some_iff, Prod.exists, Prod.mk.injEq]
      constructor
      · rintro ⟨before', rest', hcut, rfl, rfl⟩
        obtain ⟨keyword, hfirst, rfl⟩ := ih.mp hcut
        exact ⟨keyword, isFirstKeyword_cons.mpr ⟨hnot, hfirst⟩, rfl⟩
      · rintro ⟨keyword, hfirst, hsplit⟩
        cases before with
        | nil =>
          refine absurd (startsTag_iff.mpr ⟨rest, ?_⟩) hnot
          exact afterKeyword?_eq_some_iff.mpr
            ⟨keyword, hfirst.isKeyword, hfirst.inkBehind, hsplit⟩
        | cons d before =>
          obtain ⟨rfl, hrest⟩ := List.cons.inj hsplit
          exact ⟨before, rest, ih.mpr ⟨keyword, (isFirstKeyword_cons.mp hfirst).2, hrest⟩, rfl, rfl⟩

theorem hasTag_iff_exists_isFirstKeyword {s : List Char} :
    HasTag s ↔ ∃ before keyword rest, IsFirstKeyword before keyword rest ∧
      s = before ++ keyword ++ rest := by
  simp only [hasTag_iff_exists_cut?, cut?_eq_some_iff]
  constructor
  · rintro ⟨before, rest, keyword, hfirst, hsplit⟩
    exact ⟨before, keyword, rest, hfirst, hsplit⟩
  · rintro ⟨before, keyword, rest, hfirst, hsplit⟩
    exact ⟨before, rest, keyword, hfirst, hsplit⟩

theorem isInkText_around {s before keyword rest : List Char} (hs : IsInkText s)
    (hsplit : s = before ++ keyword ++ rest) : IsInkText before ∧ IsInkText rest := by
  rw [hsplit] at hs
  obtain ⟨hfront, hrest⟩ := isInkText_of_append hs
  exact ⟨(isInkText_of_append hfront).1, hrest⟩

/-- In a text without blanks a tag leaves two parts without blanks. -/
theorem exists_cut_of_ink {s : List Char} (hs : IsInkText s) (htag : HasTag s) :
    ∃ before keyword rest, cut? s = some (before, rest) ∧ IsKeyword keyword ∧
      s = before ++ keyword ++ rest ∧ IsInkText before ∧ IsInkText rest := by
  obtain ⟨before, keyword, rest, hfirst, hsplit⟩ := hasTag_iff_exists_isFirstKeyword.mp htag
  have hcut := cut?_eq_some_iff.mpr ⟨keyword, hfirst, hsplit⟩
  exact ⟨before, keyword, rest, hcut, hfirst.isKeyword, hsplit, isInkText_around hs hsplit⟩

/-! ### Tags and blanks -/

theorem afterKeyword?_append_blank {b : Char} (hb : isBlank b = true) (s t : List Char) :
    afterKeyword? (s ++ b :: t) = (afterKeyword? s).map (· ++ b :: t) := by
  unfold afterKeyword?
  rw [afterFolded?_append_blank isInkText_lang hb]
  cases afterFolded? "lang:" s with
  | none => rfl
  | some value =>
    cases value with
    | nil =>
      simp only [Option.map_some, List.nil_append]
      rw [if_neg (by simp [isInk, hb])]
      rfl
    | cons c value =>
      simp only [Option.map_some, List.cons_append]
      split
      · rfl
      · rfl

/-- **A tag lies on one side of a blank.**  The search looks in front of the blank,
    and then behind it. -/
theorem cut?_append_blank {b : Char} (hb : isBlank b = true) (s t : List Char) :
    cut? (s ++ b :: t) =
      match cut? s with
      | some (before, rest) => some (before, rest ++ b :: t)
      | none => (cut? t).map fun cut => (s ++ b :: cut.1, cut.2) := by
  induction s with
  | nil =>
    have hafter : afterKeyword? (b :: t) = none := afterKeyword?_append_blank hb [] t
    rw [List.nil_append, cut?_cons, hafter]
    rfl
  | cons c s ih =>
    rw [List.cons_append, cut?_cons, cut?_cons, ih, ← List.cons_append, afterKeyword?_append_blank hb]
    cases afterKeyword? (c :: s) with
    | some value => rfl
    | none =>
      cases cut? s with
      | some cut => rfl
      | none => cases cut? t <;> rfl

theorem hasTag_append_blank {b : Char} (hb : isBlank b = true) {s t : List Char} :
    HasTag (s ++ b :: t) ↔ HasTag s ∨ HasTag t := by
  rw [← isSome_cut?_iff, ← isSome_cut?_iff, ← isSome_cut?_iff, cut?_append_blank hb]
  cases cut? s with
  | some cut => simp
  | none => simp

theorem cut?_of_blank {s : List Char} (hs : IsBlankText s) : cut? s = none := by
  induction s with
  | nil => rfl
  | cons b s ih =>
    have hsplit := cut?_append_blank (hs b List.mem_cons_self) [] s
    rw [List.nil_append] at hsplit
    rw [hsplit, ih fun c hc => hs c (List.mem_cons_of_mem b hc)]
    rfl

/-- Blanks in front of a text move its first tag back. -/
theorem cut?_blank_append {lead : List Char} (hlead : IsBlankText lead) (s : List Char) :
    cut? (lead ++ s) = (cut? s).map fun cut => (lead ++ cut.1, cut.2) := by
  induction lead with
  | nil => simp
  | cons b lead ih =>
    have hsplit := cut?_append_blank (hlead b List.mem_cons_self) [] (lead ++ s)
    rw [List.nil_append] at hsplit
    rw [List.cons_append, hsplit, ih fun c hc => hlead c (List.mem_cons_of_mem b hc)]
    cases cut? s with
    | none => rfl
    | some cut => rfl

/-- Blanks behind a text stay behind its first tag. -/
theorem cut?_append_of_blank (s : List Char) {tail : List Char} (htail : IsBlankText tail) :
    cut? (s ++ tail) = (cut? s).map fun cut => (cut.1, cut.2 ++ tail) := by
  cases tail with
  | nil => simp
  | cons b t =>
    rw [cut?_append_blank (htail b List.mem_cons_self),
      cut?_of_blank fun c hc => htail c (List.mem_cons_of_mem b hc)]
    cases cut? s with
    | none => rfl
    | some cut => rfl

theorem cut?_keyword_append {keyword value : List Char} (hkeyword : IsKeyword keyword)
    (hvalue : ∃ c ∈ value.head?, isBlank c = false) : cut? (keyword ++ value) = some ([], value) :=
  cut?_eq_some_iff.mpr ⟨keyword, isFirstKeyword_nil.mpr ⟨hkeyword, hvalue⟩, rfl⟩

/-- The first tag stands behind blanks that a text without a tag precedes. -/
theorem cut?_tagged {front gap keyword value : List Char} (hfront : ¬ HasTag front)
    (hgap : IsBlankText gap) (hgapNe : gap ≠ []) (hkeyword : IsKeyword keyword)
    (hvalue : ∃ c ∈ value.head?, isBlank c = false) :
    cut? (front ++ gap ++ (keyword ++ value)) = some (front ++ gap, value) := by
  obtain ⟨b, rest, rfl⟩ := List.exists_cons_of_ne_nil hgapNe
  have hrest : IsBlankText rest := fun c hc => hgap c (List.mem_cons_of_mem b hc)
  rw [List.append_assoc, List.cons_append, cut?_append_blank (hgap b List.mem_cons_self),
    cut?_eq_none_iff.mpr hfront, cut?_blank_append hrest, cut?_keyword_append hkeyword hvalue]
  simp

theorem hasTag_append_left {s : List Char} (hs : HasTag s) (t : List Char) : HasTag (s ++ t) := by
  obtain ⟨before, rest, rfl, keyword, c, behind, hkeyword, hc, rfl⟩ := hs
  refine ⟨before, keyword ++ c :: (behind ++ t), ?_, keyword, c, behind ++ t, hkeyword, hc, rfl⟩
  simp

end LangTag

/-! ### Parameters -/

namespace Params

theorem parse_of_not_hasTag {raw : String} (hraw : ¬ LangTag.HasTag raw.toList) :
    parse raw = ofParts raw none (Caption.ofText? raw.toList) := by
  rw [parse, LangTag.find?, LangTag.cut?_eq_none_iff.mpr hraw]
  rfl

theorem parse_of_cut {raw : String} {before rest : List Char}
    (hcut : LangTag.cut? raw.toList = some (before, rest)) :
    parse raw = ofParts raw (some (String.ofList (rest.takeWhile isInk)))
      (Caption.ofText? (trimEnd before ++ rest.dropWhile isInk)) := by
  rw [parse, LangTag.find?, hcut]
  rfl

theorem caption_parse_of_cut {raw : String} {before rest : List Char}
    (hcut : LangTag.cut? raw.toList = some (before, rest)) :
    (parse raw).caption =
      (Caption.ofText? (trimEnd before ++ rest.dropWhile isInk)).map Caption.markup := by
  rw [parse_of_cut hcut]
  rfl

end Params

end CodeFigure
