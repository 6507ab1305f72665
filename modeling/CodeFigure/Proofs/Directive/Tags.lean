/-
  CodeFigure/Proofs/Directive/Tags.lean
  =====================================
  **The tags are read exactly where they are written.**

  `opening?` takes the opening tag off the front of a source and `beforeClosing?`
  searches for the closing tag.  Both agree with the form of the tags:

    * `opening?_eq_some_iff`        — an opening tag is found iff the source
      `Opens`, and its parts are the ones found;
    * `beforeClosing?_eq_some_iff`  — a closing tag is found iff the rest
      `Closes`, and what is in front of it is what is found.

  The search takes the first place that fits, so the second statement needs that
  there is only one: a closing tag with blanks behind it has its only `{` at its
  start (`not_mem_of_isClosingTag`), so it does not begin inside another text
  that ends in a closing tag.
-/
import CodeFigure.Directive.Grammar
import CodeFigure.Proofs.Text.Padding

namespace CodeFigure.Directive

open CodeFigure.Text

/-! ### The opening tag -/

theorem afterTagName?_eq_some_iff {s rest : List Char} :
    afterTagName? s = some rest ↔
      ∃ lead gap, IsBlankText lead ∧ IsBlankText gap ∧ startsWord rest = false ∧
        s = lead ++ ("\x7b%".toList ++ (gap ++ ("codeblock".toList ++ rest))) := by
  simp only [afterTagName?, Option.bind_eq_some_iff, after?_trimStart_eq_some_iff "\x7b%" rfl,
    after?_trimStart_eq_some_iff "codeblock" rfl]
  constructor
  · rintro ⟨inside, ⟨lead, hlead, rfl⟩, behind, ⟨gap, hgap, rfl⟩, hword⟩
    cases hstarts : startsWord behind with
    | true => simp [hstarts] at hword
    | false =>
      obtain rfl : behind = rest := by simpa [hstarts] using hword
      exact ⟨lead, gap, hlead, hgap, hstarts, rfl⟩
  · rintro ⟨lead, gap, hlead, hgap, hstarts, rfl⟩
    exact ⟨_, ⟨lead, hlead, rfl⟩, rest, ⟨gap, hgap, rfl⟩, by simp [hstarts]⟩

theorem isInsideTag_eq_true_iff {c : Char} : isInsideTag c = true ↔ c ≠ '%' := by
  simp [isInsideTag]

theorem takeWhile_isInsideTag_iff {s params rest : List Char} :
    (∃ behind, after? "%\x7d" (s.dropWhile isInsideTag) = some behind ∧
        (s.takeWhile isInsideTag, behind) = (params, rest)) ↔
      '%' ∉ params ∧ s = params ++ ("%\x7d".toList ++ rest) := by
  simp only [after?_eq_some_iff, Prod.mk.injEq]
  constructor
  · rintro ⟨behind, hdrop, rfl, rfl⟩
    refine ⟨?_, ?_⟩
    · intro hmem
      have hinside := List.all_eq_true.mp List.all_takeWhile '%' hmem
      exact absurd hinside (by decide)
    · rw [← hdrop, List.takeWhile_append_dropWhile]
  · rintro ⟨hparams, rfl⟩
    have hinside : ∀ c ∈ params, isInsideTag c = true := by
      intro c hc
      refine isInsideTag_eq_true_iff.mpr ?_
      rintro rfl
      exact hparams hc
    refine ⟨rest, ?_, ?_, rfl⟩
    · rw [List.dropWhile_append_of_pos hinside]
      rfl
    · rw [List.takeWhile_append_of_pos hinside]
      exact List.append_nil params

theorem startsWord_append_tagEnd (params rest : List Char) :
    startsWord (params ++ ("%\x7d".toList ++ rest)) = startsWord params := by
  cases params with
  | nil => exact (by decide : isWord '%' = false)
  | cons c params => rfl

/-- **An opening tag is read exactly where one is written.** -/
theorem opening?_eq_some_iff {s params rest : List Char} :
    opening? s = some (params, rest) ↔ Opens s params rest := by
  simp only [opening?, Option.bind_eq_some_iff, Option.map_eq_some_iff, takeWhile_isInsideTag_iff,
    afterTagName?_eq_some_iff, Opens, List.append_assoc]
  constructor
  · rintro ⟨named, ⟨lead, gap, hlead, hgap, hword, hs⟩, hparams, rfl⟩
    rw [startsWord_append_tagEnd] at hword
    exact ⟨lead, gap, hlead, hgap, hs, hword, hparams⟩
  · rintro ⟨lead, gap, hlead, hgap, hs, hword, hparams⟩
    rw [← startsWord_append_tagEnd params rest] at hword
    exact ⟨_, ⟨lead, gap, hlead, hgap, hword, hs⟩, hparams, rfl⟩

/-! ### The closing tag -/

def IsClosingTag (s : List Char) : Prop := Closes s []

theorem closes_iff {rest inner : List Char} :
    Closes rest inner ↔ ∃ tag, IsClosingTag tag ∧ rest = inner ++ tag := by
  constructor
  · rintro ⟨gap, gap', tail, hgap, hgap', htail, rfl⟩
    refine ⟨_, ⟨gap, gap', tail, hgap, hgap', htail, rfl⟩, ?_⟩
    simp only [List.append_assoc, List.nil_append]
  · rintro ⟨tag, ⟨gap, gap', tail, hgap, hgap', htail, rfl⟩, rfl⟩
    refine ⟨gap, gap', tail, hgap, hgap', htail, ?_⟩
    simp only [List.append_assoc, List.nil_append]

theorem isClosing_eq_true_iff {s : List Char} : isClosing s = true ↔ IsClosingTag s := by
  have hread : isClosing s = true ↔
      ∃ tail, afterClosing? s = some tail ∧ allBlank tail = true := by
    unfold isClosing
    cases afterClosing? s <;> simp
  rw [hread]
  simp only [afterClosing?, Option.bind_eq_some_iff, after?_eq_some_iff, allBlank_eq_true_iff,
    after?_trimStart_eq_some_iff "endcodeblock" rfl,
    after?_trimStart_eq_some_iff "%\x7d" rfl, IsClosingTag, Closes, List.append_assoc,
    List.nil_append]
  constructor
  · rintro ⟨tail, ⟨inside, rfl, named, ⟨gap, hgap, rfl⟩, ⟨gap', hgap', rfl⟩⟩, htail⟩
    exact ⟨gap, gap', tail, hgap, hgap', htail, rfl⟩
  · rintro ⟨gap, gap', tail, hgap, hgap', htail, rfl⟩
    exact ⟨tail, ⟨_, rfl, _, ⟨gap, hgap, rfl⟩, ⟨gap', hgap', rfl⟩⟩, htail⟩

/-- A closing tag has its only opening brace at its start. -/
theorem not_mem_of_isClosingTag {c : Char} {s : List Char} (h : IsClosingTag (c :: s)) :
    '\x7b' ∉ s := by
  obtain ⟨gap, gap', tail, hgap, hgap', htail, hs⟩ := h
  have hcons : c :: s = '\x7b' :: '%' ::
      (gap ++ ("endcodeblock".toList ++ (gap' ++ ("%\x7d".toList ++ tail)))) := by
    rw [hs]
    simp only [List.append_assoc]
    rfl
  have hbrace : isBlank '\x7b' = false := by decide
  rw [(List.cons.inj hcons).2]
  simp [not_mem_of_isBlankText hgap hbrace, not_mem_of_isBlankText hgap' hbrace,
    not_mem_of_isBlankText htail hbrace]

theorem head_of_isClosingTag {s : List Char} (h : IsClosingTag s) :
    ∃ rest, s = '\x7b' :: rest := by
  obtain ⟨gap, gap', tail, -, -, -, rfl⟩ := h
  exact ⟨_, rfl⟩

theorem not_isClosingTag_of_append {c : Char} {inner tag : List Char} (htag : IsClosingTag tag) :
    ¬ IsClosingTag (c :: (inner ++ tag)) := by
  intro h
  obtain ⟨rest, rfl⟩ := head_of_isClosingTag htag
  exact not_mem_of_isClosingTag h (by simp)

/-- **A closing tag is found exactly where one ends the text.** -/
theorem beforeClosing?_eq_some_iff {rest inner : List Char} :
    beforeClosing? rest = some inner ↔ Closes rest inner := by
  rw [closes_iff]
  constructor
  · intro h
    induction rest generalizing inner with
    | nil => simp [beforeClosing?] at h
    | cons c rest ih =>
      rw [beforeClosing?] at h
      split at h
      · next hclosing =>
        obtain rfl : [] = inner := by simpa using h
        exact ⟨c :: rest, isClosing_eq_true_iff.mp hclosing, rfl⟩
      · obtain ⟨before, hbefore, rfl⟩ := Option.map_eq_some_iff.mp h
        obtain ⟨tag, htag, rfl⟩ := ih hbefore
        exact ⟨tag, htag, rfl⟩
  · rintro ⟨tag, htag, rfl⟩
    -- the search walks over `inner`: no closing tag starts before the last one
    induction inner with
    | nil =>
      obtain ⟨rest, rfl⟩ := head_of_isClosingTag htag
      rw [List.nil_append, beforeClosing?, if_pos (isClosing_eq_true_iff.mpr htag)]
    | cons c inner ih =>
      have hopen : ¬ isClosing (c :: (inner ++ tag)) = true := by
        rw [isClosing_eq_true_iff]
        exact not_isClosingTag_of_append htag
      rw [List.cons_append, beforeClosing?, if_neg hopen, ih]
      rfl

end CodeFigure.Directive
