/-
  CodeFigure/Proofs/Caption/Extensions.lean
  =========================================
  **The extension of a title stands behind the last dot inside a word.**

  `Caption.extension?` walks over a title and asks the rest of it first, so the last dot
  with a word character on both sides decides.  It fails exactly on the titles without
  such a dot (`extension?_eq_none_iff`), and what it finds is the whole word behind the
  last one (`extension?_eq_some_iff`).

  A dot is no word character.  So the word behind a dot has none, and the dots behind it
  that count are those of the text behind the word; which is where `IsExtension` looks
  for them.  Word characters are no blanks either, which two tables decide: an extension
  is a token (`isInkText_of_extension?`).
-/
import CodeFigure.Caption.Reading
import CodeFigure.Proofs.Text.Numerals

namespace CodeFigure.Text

/-! ### Words are ink -/

theorem apart_words_blanks : wordsBeyondAscii.Apart blanks := by decide +kernel

theorem isBlank_of_isWord {c : Char} (hc : isWord c = true) : isBlank c = false := by
  unfold isWord inClass at hc
  split at hc
  · next hlow =>
    have hall : ∀ n ∈ List.range 0x80,
        isAsciiWord (Char.ofNat n) = true → isBlank (Char.ofNat n) = false := by decide +kernel
    have hchar := hall c.toNat (List.mem_range.mpr hlow)
    rw [Char.ofNat_toNat] at hchar
    exact hchar hc
  · exact CharSet.contains_eq_false_of_apart apart_words_blanks hc

end CodeFigure.Text

namespace CodeFigure.Caption

open CodeFigure.Text

/-! ### Dots inside words -/

/-- Some dot of `s` stands between two word characters. -/
def HasInnerDot (s : List Char) : Prop :=
  ∃ before after, s = before ++ '.' :: after ∧ IsInnerDot before after

theorem isWord_dot : isWord '.' = false := by decide

theorem startsWord_eq_true_iff {s : List Char} :
    startsWord s = true ↔ ∃ c ∈ s.head?, isWord c = true := by
  cases s with
  | nil => simp [startsWord]
  | cons c s => simp [startsWord]

theorem not_isInnerDot_nil (after : List Char) : ¬ IsInnerDot [] after := by
  rintro ⟨⟨c, hc, -⟩, -⟩
  cases hc

theorem isInnerDot_singleton_iff {c : Char} {after : List Char} :
    IsInnerDot [c] after ↔ isWord c = true ∧ startsWord after = true := by
  rw [IsInnerDot, startsWord_eq_true_iff]
  simp

/-- What stands before a dot matters by its last character only. -/
theorem isInnerDot_append_iff {before : List Char} (front after : List Char) (hne : before ≠ []) :
    IsInnerDot (front ++ before) after ↔ IsInnerDot before after := by
  rw [IsInnerDot, IsInnerDot, List.getLast?_append, List.getLast?_eq_some_getLast hne, Option.some_or]

theorem not_hasInnerDot_nil : ¬ HasInnerDot [] := by
  rintro ⟨before, after, hsplit, -⟩
  simp at hsplit

theorem hasInnerDot_cons_iff {c : Char} {s : List Char} :
    HasInnerDot (c :: s) ↔
      (isWord c = true ∧ ∃ after, s = '.' :: after ∧ startsWord after = true) ∨ HasInnerDot s := by
  constructor
  · rintro ⟨before, after, hsplit, hdot⟩
    match before with
    | [] => exact absurd hdot (not_isInnerDot_nil after)
    | [d] =>
      obtain ⟨rfl, rfl⟩ := List.cons.inj hsplit
      obtain ⟨hword, hstarts⟩ := isInnerDot_singleton_iff.mp hdot
      exact .inl ⟨hword, after, rfl, hstarts⟩
    | d :: e :: before =>
      obtain ⟨rfl, rfl⟩ := List.cons.inj hsplit
      exact .inr ⟨e :: before, after, rfl, (isInnerDot_append_iff [c] after (by simp)).mp hdot⟩
  · rintro (⟨hword, after, rfl, hstarts⟩ | ⟨before, after, rfl, hdot⟩)
    · exact ⟨[c], after, rfl, isInnerDot_singleton_iff.mpr ⟨hword, hstarts⟩⟩
    · have hne : before ≠ [] := by
        rintro rfl
        exact not_isInnerDot_nil after hdot
      exact ⟨c :: before, after, rfl, (isInnerDot_append_iff [c] after hne).mpr hdot⟩

/-- A word has no dot, so the dots behind it are those of the text behind it. -/
theorem hasInnerDot_dot_append_iff {word : List Char} (after : List Char)
    (hword : ∀ c ∈ word, isWord c = true) :
    HasInnerDot ('.' :: (word ++ after)) ↔
      ∃ between after', after = between ++ '.' :: after' ∧
        IsInnerDot ('.' :: (word ++ between)) after' := by
  constructor
  · rintro ⟨before, after', hsplit, hdot⟩
    cases before with
    | nil => exact absurd hdot (not_isInnerDot_nil after')
    | cons d before =>
      obtain ⟨rfl, htail⟩ := List.cons.inj hsplit
      rcases List.append_eq_append_iff.mp htail with ⟨between, rfl, hafter⟩ | ⟨between, hinside, hrest⟩
      · exact ⟨between, after', hafter, hdot⟩
      · -- the dot is the first character of the text behind the word, or it is in the word
        cases between with
        | nil =>
          refine ⟨[], after', hrest.symm, ?_⟩
          rw [List.append_nil] at hinside ⊢
          rwa [hinside]
        | cons d between =>
          obtain ⟨rfl, -⟩ := List.cons.inj hrest
          have hmem : '.' ∈ word := by
            rw [hinside]
            simp
          cases isWord_dot.symm.trans (hword _ hmem)
  · rintro ⟨between, after', rfl, hdot⟩
    exact ⟨'.' :: (word ++ between), after', by simp, hdot⟩

/-! ### The word behind a dot -/

theorem dottedWord?_eq_some_iff {s word : List Char} :
    dottedWord? s = some word ↔
      ∃ after, s = '.' :: (word ++ after) ∧ startsWord (word ++ after) = true ∧
        (∀ c ∈ word, isWord c = true) ∧ ∀ c ∈ after.head?, isWord c = false := by
  constructor
  · intro hdotted
    unfold dottedWord? at hdotted
    split at hdotted
    · next rest =>
      split at hdotted
      · next hstarts =>
        cases hdotted
        refine ⟨rest.dropWhile isWord, ?_, ?_, ?_, ?_⟩
        · rw [List.takeWhile_append_dropWhile]
        · rwa [List.takeWhile_append_dropWhile]
        · exact fun c hc => List.all_eq_true.mp List.all_takeWhile c hc
        · intro c hc
          obtain ⟨tail, htail⟩ := List.head?_eq_some_iff.mp hc
          exact head_dropWhile_eq_false htail
      · cases hdotted
    · cases hdotted
  · rintro ⟨after, rfl, hstarts, hletters, hwhole⟩
    rw [dottedWord?, if_pos hstarts, takeWhile_append_of_head hletters hwhole]

theorem exists_dottedWord?_iff {s : List Char} :
    (∃ word, dottedWord? s = some word) ↔ ∃ after, s = '.' :: after ∧ startsWord after = true := by
  constructor
  · rintro ⟨word, hword⟩
    obtain ⟨after, hsplit, hstarts, -⟩ := dottedWord?_eq_some_iff.mp hword
    exact ⟨word ++ after, hsplit, hstarts⟩
  · rintro ⟨after, rfl, hstarts⟩
    exact ⟨after.takeWhile isWord, if_pos hstarts⟩

/-! ### Extensions -/

theorem extension?_cons (c : Char) (s : List Char) :
    extension? (c :: s) =
      match extension? s with
      | some word => some word
      | none => if isWord c then dottedWord? s else none := rfl

theorem isSome_extension?_iff {s : List Char} :
    (∃ word, extension? s = some word) ↔ HasInnerDot s := by
  induction s with
  | nil =>
    refine iff_of_false ?_ not_hasInnerDot_nil
    rintro ⟨word, ⟨⟩⟩
  | cons c s ih =>
    rw [hasInnerDot_cons_iff, ← ih, ← exists_dottedWord?_iff, extension?_cons]
    cases extension? s with
    | some word => simp
    | none =>
      cases isWord c with
      | false => simp
      | true => simp

/-- **No extension without a dot inside a word.** -/
theorem extension?_eq_none_iff {s : List Char} : extension? s = none ↔ ¬ HasInnerDot s := by
  rw [← isSome_extension?_iff]
  cases extension? s with
  | none => simp
  | some word => simp

/-- The shape of an extension, by what precedes its dot and by what follows. -/
theorem isExtension_iff {before word after : List Char} :
    IsExtension before word after ↔
      (∃ c ∈ before.getLast?, isWord c = true) ∧ dottedWord? ('.' :: (word ++ after)) = some word ∧
        ¬ HasInnerDot ('.' :: (word ++ after)) := by
  have hdots (between after' : List Char) :
      IsInnerDot (before ++ '.' :: (word ++ between)) after' ↔
        IsInnerDot ('.' :: (word ++ between)) after' :=
    isInnerDot_append_iff before after' (by simp)
  constructor
  · intro hext
    refine ⟨hext.dot.1, ?_, ?_⟩
    · exact dottedWord?_eq_some_iff.mpr
        ⟨after, rfl, startsWord_eq_true_iff.mpr hext.dot.2, hext.letters, hext.whole⟩
    · rw [hasInnerDot_dot_append_iff after hext.letters]
      rintro ⟨between, after', hafter, hdot⟩
      exact hext.last between after' hafter ((hdots between after').mpr hdot)
  · rintro ⟨hbefore, hdotted, hnone⟩
    obtain ⟨after', hsplit, hstarts, hletters, hwhole⟩ := dottedWord?_eq_some_iff.mp hdotted
    obtain rfl : after = after' := List.append_cancel_left (List.cons.inj hsplit).2
    rw [hasInnerDot_dot_append_iff after hletters] at hnone
    refine ⟨⟨hbefore, startsWord_eq_true_iff.mp hstarts⟩, hletters, hwhole, ?_⟩
    intro between after' hafter hdot
    exact hnone ⟨between, after', hafter, (hdots between after').mp hdot⟩

theorem isExtension_cons_iff {c : Char} {before word after : List Char} (hne : before ≠ []) :
    IsExtension (c :: before) word after ↔ IsExtension before word after := by
  rw [isExtension_iff, isExtension_iff, List.getLast?_cons, List.getLast?_eq_some_getLast hne,
    Option.getD_some]

theorem IsExtension.before_ne_nil {before word after : List Char}
    (hext : IsExtension before word after) : before ≠ [] := by
  rintro rfl
  exact not_isInnerDot_nil _ hext.dot

theorem IsExtension.hasInnerDot {before word after : List Char}
    (hext : IsExtension before word after) : HasInnerDot (before ++ '.' :: (word ++ after)) :=
  ⟨before, word ++ after, rfl, hext.dot⟩

/-- **The extension is the word behind the last dot inside a word.** -/
theorem extension?_eq_some_iff {s word : List Char} :
    extension? s = some word ↔
      ∃ before after, s = before ++ '.' :: (word ++ after) ∧ IsExtension before word after := by
  induction s with
  | nil => simp [extension?]
  | cons c s ih =>
    rw [extension?_cons]
    cases hrest : extension? s with
    | some other =>
      -- the rest has such a dot, so the one that counts is not the first character of it
      simp only [← hrest, ih]
      constructor
      · rintro ⟨before, after, rfl, hext⟩
        exact ⟨c :: before, after, rfl, (isExtension_cons_iff hext.before_ne_nil).mpr hext⟩
      · rintro ⟨before, after, hsplit, hext⟩
        match before with
        | [] => exact absurd rfl hext.before_ne_nil
        | [d] =>
          obtain ⟨-, rfl⟩ := List.cons.inj hsplit
          exact absurd (isSome_extension?_iff.mp ⟨other, hrest⟩) (isExtension_iff.mp hext).2.2
        | d :: e :: before =>
          obtain ⟨rfl, rfl⟩ := List.cons.inj hsplit
          exact ⟨e :: before, after, rfl, (isExtension_cons_iff (by simp)).mp hext⟩
    | none =>
      have hnone := extension?_eq_none_iff.mp hrest
      simp only
      constructor
      · intro hword
        split at hword
        · next hc =>
          obtain ⟨after, rfl, -⟩ := dottedWord?_eq_some_iff.mp hword
          exact ⟨[c], after, rfl, isExtension_iff.mpr ⟨⟨c, rfl, hc⟩, hword, hnone⟩⟩
        · cases hword
      · rintro ⟨before, after, hsplit, hext⟩
        match before with
        | [] => exact absurd rfl hext.before_ne_nil
        | [d] =>
          obtain ⟨rfl, rfl⟩ := List.cons.inj hsplit
          obtain ⟨⟨last, hlast, hc⟩, hdotted, -⟩ := isExtension_iff.mp hext
          obtain rfl : c = last := by simpa using hlast
          rw [if_pos hc]
          exact hdotted
        | d :: e :: before =>
          obtain ⟨rfl, rfl⟩ := List.cons.inj hsplit
          exact absurd ((isExtension_cons_iff (by simp)).mp hext).hasInnerDot hnone

/-- An extension is a token. -/
theorem isInkText_of_extension? {s word : List Char} (hword : extension? s = some word) :
    word ≠ [] ∧ IsInkText word := by
  obtain ⟨before, after, -, hext⟩ := extension?_eq_some_iff.mp hword
  constructor
  · rintro rfl
    obtain ⟨c, hc, hisWord⟩ := hext.dot.2
    cases hisWord.symm.trans (hext.whole c hc)
  · intro c hc
    exact isBlank_of_isWord (hext.letters c hc)

end CodeFigure.Caption
