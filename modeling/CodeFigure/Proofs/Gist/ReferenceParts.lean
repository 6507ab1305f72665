/-
  CodeFigure/Proofs/Gist/ReferenceParts.lean
  ==========================================
  **A text is taken apart as a reference exactly when it has the form of one.**

  The reader takes a reference apart from the left.  Whatever it answers, its
  parts are well formed and the text consists of them (`writes_of_parts?`).

  The reader also misses nothing (`parts?_of_writes`).  Each part ends where the
  text says so: digits are owner characters, so a run of them that no `/` follows
  is no owner; and no blank is a digit, so the digits reach up to the gap.  A text
  therefore has the form in one way at most.
-/
import CodeFigure.Gist.ReferenceForm
import CodeFigure.Proofs.Text.Numerals

namespace CodeFigure.Reference

open CodeFigure.Text

/-! ### The owner -/

theorem isOwnerChar_eq_true_iff {c : Char} :
    isOwnerChar c = true ↔ isBlank c = false ∧ c ≠ '/' := by
  rw [isOwnerChar, Bool.and_eq_true, isInk_eq_true_iff, bne_iff_ne]

theorem isOwner_iff {owner : List Char} :
    IsOwner owner ↔ owner ≠ [] ∧ ∀ c ∈ owner, isOwnerChar c = true := by
  constructor
  · rintro ⟨hne, hink, hslash⟩
    refine ⟨hne, ?_⟩
    intro c hc
    refine isOwnerChar_eq_true_iff.mpr ⟨hink c hc, ?_⟩
    rintro rfl
    exact hslash hc
  · rintro ⟨hne, hall⟩
    refine ⟨hne, ?_, ?_⟩
    · intro c hc
      exact (isOwnerChar_eq_true_iff.mp (hall c hc)).1
    · intro hslash
      exact (isOwnerChar_eq_true_iff.mp (hall '/' hslash)).2 rfl

theorem cutOwner_eq_some_iff {s owner rest : List Char} :
    cutOwner s = (some owner, rest) ↔ IsOwner owner ∧ s = owner ++ '/' :: rest := by
  constructor
  · intro hcut
    unfold cutOwner at hcut
    split at hcut
    · next c name behind htake hdrop =>
      cases hcut
      refine ⟨isOwner_iff.mpr ⟨List.cons_ne_nil c name, ?_⟩, ?_⟩
      · rw [← htake]
        exact fun d hd => List.all_eq_true.mp List.all_takeWhile d hd
      · rw [← hdrop, ← htake, List.takeWhile_append_dropWhile]
    · cases hcut
  · rintro ⟨howner, rfl⟩
    obtain ⟨hne, hall⟩ := isOwner_iff.mp howner
    have hslash : ∀ c ∈ ('/' :: rest).head?, isOwnerChar c = false := by
      rintro c ⟨⟩
      decide
    unfold cutOwner
    rw [takeWhile_append_of_head hall hslash, dropWhile_append_of_head hall hslash]
    obtain ⟨c, name, rfl⟩ := List.exists_cons_of_ne_nil hne
    rfl

/-- A run of owner characters is no owner when a blank follows it, or nothing. -/
theorem cutOwner_append_of_blank {run tail : List Char} (hrun : ∀ c ∈ run, isOwnerChar c = true)
    (htail : ∀ c ∈ tail.head?, isBlank c = true) : cutOwner (run ++ tail) = (none, run ++ tail) := by
  have hstop : ∀ c ∈ tail.head?, isOwnerChar c = false := by
    intro c hc
    simp [isOwnerChar, isInk, htail c hc]
  unfold cutOwner
  rw [takeWhile_append_of_head hrun hstop, dropWhile_append_of_head hrun hstop]
  split
  · -- the run would have to end at a `/`
    exact absurd (htail '/' rfl) (by decide)
  · rfl

theorem eq_of_cutOwner_none {s rest : List Char} (hcut : cutOwner s = (none, rest)) : s = rest := by
  unfold cutOwner at hcut
  split at hcut
  · cases hcut
  · cases hcut
    rfl

/-! ### The filename -/

theorem filename?_eq_some_none_iff {s : List Char} : filename? s = some none ↔ s = [] := by
  cases s with
  | nil => exact iff_of_true rfl rfl
  | cons c rest =>
    refine iff_of_false ?_ (List.cons_ne_nil c rest)
    unfold filename?
    intro hread
    simp only at hread
    split at hread
    · split at hread
      · cases hread
      · split at hread
        · cases hread
        · cases hread
    · cases hread

theorem filename?_eq_some_some_iff {s name : List Char} :
    filename? s = some (some name) ↔
      IsFilename name ∧ ∃ gap, gap ≠ [] ∧ IsBlankText gap ∧ s = gap ++ name := by
  constructor
  · intro hread
    cases s with
    | nil => cases hread
    | cons c rest =>
      unfold filename? at hread
      simp only at hread
      split at hread
      · next hc =>
        split at hread
        · cases hread
        · next hne =>
          split at hread
          · next hink =>
            cases hread
            obtain ⟨lead, hlead, hsplit⟩ := exists_blank_append_trimStart rest
            refine ⟨⟨hne, all_isInk_eq_true_iff.mp hink⟩, c :: lead, List.cons_ne_nil c lead, ?_, ?_⟩
            · exact isBlankText_append (isBlankText_singleton hc) hlead
            · rw [List.cons_append, ← hsplit]
          · cases hread
      · cases hread
  · rintro ⟨⟨hne, hink⟩, gap, hgapNe, hgap, rfl⟩
    obtain ⟨b, gap, rfl⟩ := List.exists_cons_of_ne_nil hgapNe
    obtain ⟨c, rest, rfl⟩ := List.exists_cons_of_ne_nil hne
    have htrim : trimStart (gap ++ c :: rest) = c :: rest := by
      rw [trimStart_append_of_blank fun d hd => hgap d (List.mem_cons_of_mem b hd),
        trimStart_cons_of_ink (hink c List.mem_cons_self)]
    rw [List.cons_append, filename?, if_pos (hgap b List.mem_cons_self), htrim]
    simp only
    rw [if_pos (all_isInk_eq_true_iff.mpr hink)]

/-! ### The parts together -/

theorem written_eq (parts : Parts) (gap : List Char) :
    parts.written gap = (Parts.mk parts.owner [] none).written gap ++ parts.digits ++
      (Parts.mk none [] parts.filename).written gap := by
  simp [Parts.written]

theorem writes_of_cutOwner {s rest : List Char} {owner : Option (List Char)}
    (hcut : cutOwner s = (owner, rest)) :
    (∀ name ∈ owner, IsOwner name) ∧
      ∀ gap, s = (Parts.mk owner [] none).written gap ++ rest := by
  cases owner with
  | none =>
    refine ⟨?_, ?_⟩
    · intro name hname
      cases hname
    · intro gap
      exact eq_of_cutOwner_none hcut
  | some owner =>
    obtain ⟨howner, hsplit⟩ := cutOwner_eq_some_iff.mp hcut
    refine ⟨?_, ?_⟩
    · intro name hname
      cases hname
      exact howner
    · intro gap
      rw [hsplit]
      simp [Parts.written]

theorem writes_of_filename? {s : List Char} {filename : Option (List Char)}
    (hread : filename? s = some filename) :
    (∀ name ∈ filename, IsFilename name) ∧
      ∃ gap, gap ≠ [] ∧ IsBlankText gap ∧ s = (Parts.mk none [] filename).written gap := by
  cases filename with
  | none =>
    refine ⟨?_, [' '], List.cons_ne_nil ' ' [], isBlankText_singleton (by decide), ?_⟩
    · intro name hname
      cases hname
    · exact filename?_eq_some_none_iff.mp hread
  | some filename =>
    obtain ⟨hfilename, gap, hne, hgap, hsplit⟩ := filename?_eq_some_some_iff.mp hread
    refine ⟨?_, gap, hne, hgap, hsplit⟩
    intro name hname
    cases hname
    exact hfilename

/-- **The reader answers with parts that the text consists of.** -/
theorem writes_of_parts? {s : List Char} {parts : Parts} (hread : parts? s = some parts) :
    parts.Writes s := by
  unfold parts? at hread
  cases hcut : cutOwner s with
  | mk owner rest =>
    rw [hcut] at hread
    simp only at hread
    split at hread
    · cases hread
    · next hne =>
      obtain ⟨filename, hfilename, rfl⟩ := Option.map_eq_some_iff.mp hread
      obtain ⟨howner, hsplit⟩ := writes_of_cutOwner hcut
      obtain ⟨hname, gap, hgapNe, hgap, hbehind⟩ := writes_of_filename? hfilename
      have hrest : rest.takeWhile isDecimalDigit ++ rest.dropWhile isDecimalDigit = rest :=
        List.takeWhile_append_dropWhile
      refine ⟨⟨howner, ⟨hne, ?_⟩, hname⟩, gap, hgapNe, hgap, ?_⟩
      · intro c hc
        exact List.all_eq_true.mp List.all_takeWhile c hc
      · rw [written_eq, ← hbehind, List.append_assoc, hrest]
        exact hsplit gap

theorem isOwnerChar_of_isDecimalDigit {c : Char} (hc : isDecimalDigit c = true) :
    isOwnerChar c = true := by
  refine isOwnerChar_eq_true_iff.mpr ⟨isBlank_of_isDecimalDigit hc, ?_⟩
  rintro rfl
  exact absurd hc (by decide)

section

variable {parts : Parts} {gap : List Char}

/-- Behind the digits stands a blank, or nothing. -/
theorem head_written_filename (hgap : IsBlankText gap) (hne : gap ≠ []) :
    ∀ c ∈ ((Parts.mk none [] parts.filename).written gap).head?, isBlank c = true := by
  obtain ⟨b, rest, rfl⟩ := List.exists_cons_of_ne_nil hne
  cases hfile : parts.filename with
  | none =>
    intro c hc
    cases hc
  | some name =>
    intro c hc
    cases hc
    exact hgap b List.mem_cons_self

theorem cutOwner_written (hform : parts.WellFormed) (hgap : IsBlankText gap) (hne : gap ≠ []) :
    cutOwner (parts.written gap) =
      (parts.owner, parts.digits ++ (Parts.mk none [] parts.filename).written gap) := by
  rw [written_eq]
  cases howner : parts.owner with
  | none =>
    refine cutOwner_append_of_blank ?_ (head_written_filename hgap hne)
    intro c hc
    exact isOwnerChar_of_isDecimalDigit (hform.digits.2 c hc)
  | some owner =>
    refine cutOwner_eq_some_iff.mpr ⟨hform.owner owner howner, ?_⟩
    simp [Parts.written]

theorem filename?_written (hform : parts.WellFormed) (hgap : IsBlankText gap) (hne : gap ≠ []) :
    filename? ((Parts.mk none [] parts.filename).written gap) = some parts.filename := by
  cases hfile : parts.filename with
  | none => exact filename?_eq_some_none_iff.mpr rfl
  | some name => exact filename?_eq_some_some_iff.mpr ⟨hform.filename name hfile, gap, hne, hgap, rfl⟩

end

/-- **The reader answers with every form that a text has.** -/
theorem parts?_of_writes {s : List Char} {parts : Parts} (hwrites : parts.Writes s) :
    parts? s = some parts := by
  obtain ⟨hform, gap, hne, hgap, rfl⟩ := hwrites
  obtain ⟨hdigitsNe, hdigits⟩ := hform.digits
  have hstop : ∀ c ∈ ((Parts.mk none [] parts.filename).written gap).head?,
      isDecimalDigit c = false := by
    intro c hc
    apply Bool.eq_false_iff.mpr
    intro hdigit
    have hblank := head_written_filename hgap hne c hc
    rw [isBlank_of_isDecimalDigit hdigit] at hblank
    cases hblank
  rw [parts?, cutOwner_written hform hgap hne]
  simp only
  rw [takeWhile_append_of_head hdigits hstop, dropWhile_append_of_head hdigits hstop,
    filename?_written hform hgap hne]
  obtain ⟨c, rest, hcons⟩ := List.exists_cons_of_ne_nil hdigitsNe
  rw [hcons]
  simp [← hcons]

end CodeFigure.Reference
