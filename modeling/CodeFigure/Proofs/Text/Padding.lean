/-
  CodeFigure/Proofs/Text/Padding.lean
  ===================================
  **Padding does not matter to a reader that trims.**

  A reader of the library that skips blanks in front of a keyword reads the
  keyword wherever it stands behind blanks, and only there
  (`after?_trimStart_eq_some_iff`).  A reader that trims its input gives the same
  answer for a text with blanks around it (`trim_append_append`).  Text without
  blanks is what trimming leaves alone (`trim_of_ink`).
-/
import CodeFigure.Text.Lead
import CodeFigure.Text.Token

namespace CodeFigure.Text

/-! ### Blank texts and texts without blanks -/

instance (s : List Char) : Decidable (IsBlankText s) :=
  decidable_of_iff (allBlank s = true) allBlank_eq_true_iff

theorem isBlankText_nil : IsBlankText [] := by
  intro c hc
  cases hc

theorem isBlankText_singleton {c : Char} (hc : isBlank c = true) : IsBlankText [c] := by
  intro d hd
  rw [List.mem_singleton.mp hd]
  exact hc

theorem isBlankText_append {s t : List Char} (hs : IsBlankText s) (ht : IsBlankText t) :
    IsBlankText (s ++ t) := by
  intro c hc
  rcases List.mem_append.mp hc with h | h
  · exact hs c h
  · exact ht c h

theorem isInkText_append {s t : List Char} (hs : IsInkText s) (ht : IsInkText t) :
    IsInkText (s ++ t) := by
  intro c hc
  rcases List.mem_append.mp hc with h | h
  · exact hs c h
  · exact ht c h

theorem isInkText_of_append {s t : List Char} (h : IsInkText (s ++ t)) :
    IsInkText s ∧ IsInkText t :=
  ⟨fun c hc => h c (List.mem_append_left t hc), fun c hc => h c (List.mem_append_right s hc)⟩

theorem not_mem_of_isBlankText {s : List Char} {c : Char} (hs : IsBlankText s)
    (hc : isBlank c = false) : c ∉ s := by
  intro hmem
  have hblank := hs c hmem
  rw [hc] at hblank
  exact absurd hblank (by decide)

theorem isInk_of_isInkText {s : List Char} (hs : IsInkText s) : ∀ c ∈ s, isInk c = true :=
  fun c hc => isInk_eq_true_iff.mpr (hs c hc)

/-! ### Runs -/

section

variable {α : Type} {p : α → Bool} {run tail : List α}

/-- A text is cut at the first occurrence of a character in one way. -/
theorem append_cons_inj {c : α} {front front' back back' : List α} (hfront : c ∉ front)
    (hfront' : c ∉ front') (hsame : front ++ c :: back = front' ++ c :: back') :
    front = front' ∧ back = back' := by
  induction front generalizing front' with
  | nil =>
    cases front' with
    | nil => exact ⟨rfl, (List.cons.inj hsame).2⟩
    | cons d front' =>
      have hd : c = d := (List.cons.inj hsame).1
      exact absurd (by simp [hd]) hfront'
  | cons d front ih =>
    cases front' with
    | nil =>
      have hd : d = c := (List.cons.inj hsame).1
      exact absurd (by simp [hd]) hfront
    | cons d' front' =>
      obtain ⟨hd, hrest⟩ := List.cons.inj hsame
      obtain ⟨hfronts, hbacks⟩ := ih (List.not_mem_of_not_mem_cons hfront)
        (List.not_mem_of_not_mem_cons hfront') hrest
      exact ⟨by rw [hd, hfronts], hbacks⟩

theorem takeWhile_of_forall (hrun : ∀ c ∈ run, p c = true) : run.takeWhile p = run := by
  have htake : (run ++ []).takeWhile p = run ++ [].takeWhile p := List.takeWhile_append_of_pos hrun
  simpa using htake

theorem dropWhile_of_forall (hrun : ∀ c ∈ run, p c = true) : run.dropWhile p = [] := by
  have hdrop : (run ++ []).dropWhile p = [].dropWhile p := List.dropWhile_append_of_pos hrun
  simpa using hdrop

/-- A run ends where the whole text does not continue it. -/
theorem takeWhile_append_of_stop (s : List α) (htail : ∀ c ∈ tail.head?, p c = false) :
    (s ++ tail).takeWhile p = s.takeWhile p := by
  induction s with
  | nil =>
    cases tail with
    | nil => rfl
    | cons c rest => simp [htail c rfl]
  | cons c s ih =>
    rw [List.cons_append, List.takeWhile_cons, List.takeWhile_cons, ih]

theorem dropWhile_append_of_stop (s : List α) (htail : ∀ c ∈ tail.head?, p c = false) :
    (s ++ tail).dropWhile p = s.dropWhile p ++ tail := by
  induction s with
  | nil =>
    cases tail with
    | nil => rfl
    | cons c rest => simp [htail c rfl]
  | cons c s ih =>
    rw [List.cons_append, List.dropWhile_cons, List.dropWhile_cons, ih]
    split
    · rfl
    · rfl

/-- A run that what follows it does not continue is cut off whole. -/
theorem takeWhile_append_of_head (hrun : ∀ c ∈ run, p c = true)
    (htail : ∀ c ∈ tail.head?, p c = false) : (run ++ tail).takeWhile p = run := by
  rw [takeWhile_append_of_stop run htail, takeWhile_of_forall hrun]

theorem dropWhile_append_of_head (hrun : ∀ c ∈ run, p c = true)
    (htail : ∀ c ∈ tail.head?, p c = false) : (run ++ tail).dropWhile p = tail := by
  rw [dropWhile_append_of_stop run htail, dropWhile_of_forall hrun, List.nil_append]

end

theorem takeWhile_isInk_of_ink {s : List Char} (hs : IsInkText s) : s.takeWhile isInk = s :=
  takeWhile_of_forall (isInk_of_isInkText hs)

theorem dropWhile_isInk_of_ink {s : List Char} (hs : IsInkText s) : s.dropWhile isInk = [] :=
  dropWhile_of_forall (isInk_of_isInkText hs)

/-- No run of characters that are not blank goes on in a blank text. -/
theorem isInk_head_of_blank {s : List Char} (hs : IsBlankText s) : ∀ c ∈ s.head?, isInk c = false := by
  intro c hc
  have hblank := hs c (List.mem_of_mem_head? hc)
  simp [isInk, hblank]

/-! ### Trimming the start -/

theorem trimStart_append_of_blank {s : List Char} (hs : IsBlankText s) (t : List Char) :
    trimStart (s ++ t) = trimStart t :=
  List.dropWhile_append_of_pos hs

theorem trimStart_cons_of_ink {c : Char} (hc : isBlank c = false) (s : List Char) :
    trimStart (c :: s) = c :: s := by
  rw [trimStart, List.dropWhile_cons_of_neg (by rw [hc]; decide)]

theorem exists_blank_append_trimStart (s : List Char) :
    ∃ lead, IsBlankText lead ∧ s = lead ++ trimStart s := by
  refine ⟨s.takeWhile isBlank, ?_, (List.takeWhile_append_dropWhile).symm⟩
  intro c hc
  exact List.all_eq_true.mp List.all_takeWhile c hc

/-- **A keyword behind blanks.**  Skipping blanks and then reading a keyword that
    starts with no blank succeeds on the texts that are blanks and the keyword. -/
theorem after?_trimStart_eq_some_iff (lead : String)
    (hlead : lead.toList.head?.any isInk = true) {s rest : List Char} :
    after? lead (trimStart s) = some rest ↔
      ∃ gap, IsBlankText gap ∧ s = gap ++ (lead.toList ++ rest) := by
  rw [after?_eq_some_iff]
  constructor
  · intro hs
    obtain ⟨gap, hgap, hsplit⟩ := exists_blank_append_trimStart s
    exact ⟨gap, hgap, by rw [← hs, ← hsplit]⟩
  · rintro ⟨gap, hgap, rfl⟩
    rw [trimStart_append_of_blank hgap]
    cases hl : lead.toList with
    | nil => rw [hl] at hlead; exact absurd hlead (by decide)
    | cons c l =>
      have hc : isBlank c = false := by
        rw [hl] at hlead
        exact isInk_eq_true_iff.mp (by simpa using hlead)
      rw [List.cons_append, trimStart_cons_of_ink hc]

/-! ### Trimming both ends -/

theorem trimStart_eq_nil_iff {s : List Char} : trimStart s = [] ↔ IsBlankText s := by
  constructor
  · intro hnil
    obtain ⟨lead, hlead, hsplit⟩ := exists_blank_append_trimStart s
    rw [hsplit, hnil, List.append_nil]
    exact hlead
  · intro hs
    have hdrop : trimStart (s ++ []) = trimStart [] := trimStart_append_of_blank hs []
    rwa [List.append_nil] at hdrop

theorem dropEndWhile_append_of_forall {p : Char → Bool} (s : List Char) {t : List Char}
    (ht : ∀ c ∈ t, p c = true) : dropEndWhile p (s ++ t) = dropEndWhile p s := by
  have hrev : ∀ c ∈ t.reverse, p c = true := by
    intro c hc
    exact ht c (List.mem_reverse.mp hc)
  rw [dropEndWhile, List.reverse_append, List.dropWhile_append_of_pos hrev]
  rfl

theorem trimEnd_append_of_blank (s : List Char) {t : List Char} (ht : IsBlankText t) :
    trimEnd (s ++ t) = trimEnd s :=
  dropEndWhile_append_of_forall s ht

/-- `trimEnd` takes blanks away at the end. -/
theorem exists_trimEnd_append_blank (s : List Char) :
    ∃ tail, IsBlankText tail ∧ s = trimEnd s ++ tail := by
  refine ⟨(s.reverse.takeWhile isBlank).reverse, ?_, (dropEndWhile_append isBlank s).symm⟩
  intro c hc
  exact List.all_eq_true.mp List.all_takeWhile c (List.mem_reverse.mp hc)

theorem getLast?_dropEndWhile (p : Char → Bool) (s : List Char) :
    ∀ c ∈ (dropEndWhile p s).getLast?, p c = false := by
  intro c hc
  rw [dropEndWhile, List.getLast?_reverse] at hc
  obtain ⟨rest, hrest⟩ := List.head?_eq_some_iff.mp hc
  exact head_dropWhile_eq_false hrest

/-- `trimEnd` leaves no blank at the end. -/
theorem isBlank_getLast?_trimEnd (s : List Char) :
    ∀ c ∈ (trimEnd s).getLast?, isBlank c = false :=
  getLast?_dropEndWhile isBlank s

theorem trimEnd_of_getLast? {s : List Char} (hs : ∀ c ∈ s.getLast?, isBlank c = false) :
    trimEnd s = s := by
  rcases List.eq_nil_or_concat s with rfl | ⟨t, c, rfl⟩
  · rfl
  · rw [List.concat_eq_append] at hs ⊢
    exact dropEndWhile_concat_of_not (hs c (by simp))

theorem trimStart_append_of_not_blank {s : List Char} (hs : ¬ IsBlankText s) (t : List Char) :
    trimStart (s ++ t) = trimStart s ++ t := by
  have hne : (trimStart s).isEmpty = false := by
    rw [List.isEmpty_eq_false_iff]
    intro hnil
    exact hs (trimStart_eq_nil_iff.mp hnil)
  rw [trimStart, List.dropWhile_append, ← trimStart, hne]
  rfl

theorem trim_append_append {w w' : List Char} (hw : IsBlankText w) (s : List Char)
    (hw' : IsBlankText w') : trim (w ++ s ++ w') = trim s := by
  rw [trim, List.append_assoc, trimStart_append_of_blank hw]
  by_cases hs : IsBlankText s
  · -- nothing is left on either side
    rw [trimStart_eq_nil_iff.mpr (isBlankText_append hs hw'), trim, trimStart_eq_nil_iff.mpr hs]
  · rw [trimStart_append_of_not_blank hs, trimEnd_append_of_blank _ hw', trim]

/-- Trimming takes blanks away at both ends. -/
theorem exists_blank_append_trim (s : List Char) :
    ∃ lead tail, IsBlankText lead ∧ IsBlankText tail ∧ s = lead ++ trim s ++ tail := by
  obtain ⟨lead, hlead, hstart⟩ := exists_blank_append_trimStart s
  obtain ⟨tail, htail, hend⟩ := exists_trimEnd_append_blank (trimStart s)
  refine ⟨lead, tail, hlead, htail, ?_⟩
  rw [List.append_assoc, trim, ← hend, ← hstart]

theorem trim_eq_nil_iff {s : List Char} : trim s = [] ↔ IsBlankText s := by
  constructor
  · intro hnil
    obtain ⟨lead, tail, hlead, htail, hsplit⟩ := exists_blank_append_trim s
    rw [hsplit, hnil, List.append_nil]
    exact isBlankText_append hlead htail
  · intro hs
    rw [trim, trimStart_eq_nil_iff.mpr hs]
    rfl

theorem dropEndWhile_append_of_exists {p : Char → Bool} (s : List Char) {t : List Char}
    (ht : ∃ c ∈ t, p c = false) : dropEndWhile p (s ++ t) = s ++ dropEndWhile p t := by
  obtain ⟨c, hc, hp⟩ := ht
  have hne : (t.reverse.dropWhile p).isEmpty = false := by
    rw [List.isEmpty_eq_false_iff]
    intro hnil
    have hall : t.reverse.takeWhile p ++ t.reverse.dropWhile p = t.reverse :=
      List.takeWhile_append_dropWhile
    rw [hnil, List.append_nil] at hall
    have hmem : c ∈ t.reverse.takeWhile p := by
      rw [hall]
      exact List.mem_reverse.mpr hc
    rw [List.all_eq_true.mp List.all_takeWhile c hmem] at hp
    cases hp
  rw [dropEndWhile, dropEndWhile, List.reverse_append, List.dropWhile_append, hne]
  simp

/-- Blanks in front stay in front, or go with all the rest. -/
theorem exists_trimEnd_blank_append {lead : List Char} (hlead : IsBlankText lead) (s : List Char) :
    ∃ lead', IsBlankText lead' ∧ trimEnd (lead ++ s) = lead' ++ trimEnd s := by
  by_cases hs : ∃ c ∈ s, isBlank c = false
  · exact ⟨lead, hlead, dropEndWhile_append_of_exists lead hs⟩
  · have hblank : IsBlankText s := by simpa [IsBlankText] using hs
    refine ⟨[], isBlankText_nil, ?_⟩
    rw [trimEnd_append_of_blank lead hblank]
    have hall : trimEnd ([] ++ lead) = trimEnd ([] ++ s) := by
      rw [trimEnd_append_of_blank [] hlead, trimEnd_append_of_blank [] hblank]
    exact hall

theorem trimEnd_append_of_ink (front : List Char) {s : List Char} (hs : IsInkText s)
    (hne : s ≠ []) : trimEnd (front ++ s) = front ++ s := by
  apply trimEnd_of_getLast?
  intro c hc
  rw [List.getLast?_append, List.getLast?_eq_some_getLast hne, Option.some_or] at hc
  cases hc
  exact hs _ (List.getLast_mem hne)

theorem trimEnd_of_ink {s : List Char} (hs : IsInkText s) : trimEnd s = s := by
  by_cases hne : s = []
  · rw [hne]
    rfl
  · exact trimEnd_append_of_ink [] hs hne

theorem trim_of_ink {s : List Char} (hs : IsInkText s) : trim s = s := by
  cases s with
  | nil => rfl
  | cons c t => rw [trim, trimStart_cons_of_ink (hs c List.mem_cons_self), trimEnd_of_ink hs]

/-- Trimming only looks at the ends. -/
theorem trim_between_ink {front back : List Char} (middle : List Char) (hfront : IsInkText front)
    (hfrontNe : front ≠ []) (hback : IsInkText back) (hbackNe : back ≠ []) :
    trim (front ++ middle ++ back) = front ++ middle ++ back := by
  obtain ⟨c, rest, rfl⟩ := List.exists_cons_of_ne_nil hfrontNe
  rw [trim, List.cons_append, List.cons_append,
    trimStart_cons_of_ink (hfront c List.mem_cons_self), ← List.cons_append, ← List.cons_append]
  exact trimEnd_append_of_ink (c :: rest ++ middle) hback hbackNe

theorem trim_two_words {first second : List Char} (b : Char) (hfirst : IsInkText first)
    (hfirstNe : first ≠ []) (hsecond : IsInkText second) (hsecondNe : second ≠ []) :
    trim (first ++ b :: second) = first ++ b :: second := by
  rw [List.append_cons]
  exact trim_between_ink [b] hfirst hfirstNe hsecond hsecondNe

end CodeFigure.Text
