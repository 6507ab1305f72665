/-
  CodeFigure/Proofs/Directive/Reading.lean
  ========================================
  **What reading a directive answers, said by the form of the source.**

  A source is cut into the pieces of an opening tag and a rest (`Opening`), and
  the rest into a body and the pieces of a closing tag (`Closing`).  Each cut can
  be made in one way at most: blanks hold no bracket and no letter, parameters no
  `%`, and only the last closing tag has nothing but blanks behind it.

  The pieces decide the answer, and in this order: without an opening tag that is
  missing, whatever else is; without a closing tag behind it, that is missing;
  with both, reserved characters in the parameters are an error, and otherwise the
  directive is there.  The third error shows the parameters untrimmed.
-/
import CodeFigure.Proofs.Directive.RoundTrip

namespace CodeFigure.Directive

open CodeFigure.Text

/-! ### Pieces -/

structure Opening where
  lead : List Char
  /-- The blanks in front of the name of the tag. -/
  gap : List Char
  params : List Char
  rest : List Char

structure Closing where
  inner : List Char
  /-- The blanks in front of the name of the tag. -/
  gap : List Char
  /-- The blanks behind it. -/
  endGap : List Char
  tail : List Char

structure Opening.Cuts (opening : Opening) (source : List Char) : Prop where
  lead : IsBlankText opening.lead
  gap : IsBlankText opening.gap
  /-- The name of the tag ends at its last letter. -/
  name : startsWord opening.params = false
  params : '%' ∉ opening.params
  source : source = opening.lead ++ "\x7b%".toList ++ opening.gap ++ "codeblock".toList ++
    opening.params ++ "%\x7d".toList ++ opening.rest

structure Closing.Cuts (closing : Closing) (rest : List Char) : Prop where
  gap : IsBlankText closing.gap
  endGap : IsBlankText closing.endGap
  tail : IsBlankText closing.tail
  rest : rest = closing.inner ++ "\x7b%".toList ++ closing.gap ++ "endcodeblock".toList ++
    closing.endGap ++ "%\x7d".toList ++ closing.tail

theorem Opening.Cuts.opens {opening : Opening} {source : List Char} (hcuts : opening.Cuts source) :
    Opens source opening.params opening.rest :=
  ⟨opening.lead, opening.gap, hcuts.lead, hcuts.gap, hcuts.source, hcuts.name, hcuts.params⟩

theorem Closing.Cuts.closes {closing : Closing} {rest : List Char} (hcuts : closing.Cuts rest) :
    Closes rest closing.inner :=
  ⟨closing.gap, closing.endGap, closing.tail, hcuts.gap, hcuts.endGap, hcuts.tail, hcuts.rest⟩

theorem exists_opening_of_opens {source params rest : List Char} (hopens : Opens source params rest) :
    ∃ opening : Opening, opening.Cuts source ∧ opening.params = params ∧ opening.rest = rest := by
  obtain ⟨lead, gap, hlead, hgap, hsource, hname, hparams⟩ := hopens
  exact ⟨⟨lead, gap, params, rest⟩, ⟨hlead, hgap, hname, hparams, hsource⟩, rfl, rfl⟩

theorem exists_closing_of_closes {rest inner : List Char} (hcloses : Closes rest inner) :
    ∃ closing : Closing, closing.Cuts rest ∧ closing.inner = inner := by
  obtain ⟨gap, endGap, tail, hgap, hendGap, htail, hrest⟩ := hcloses
  exact ⟨⟨inner, gap, endGap, tail⟩, ⟨hgap, hendGap, htail, hrest⟩, rfl⟩

/-! ### One cut at most -/

/-- A text is cut in one way at a mark whose first character does not come earlier. -/
theorem append_mark_inj {front front' mark back back' : List Char} {c : Char} (hfront : c ∉ front)
    (hfront' : c ∉ front') (hsame : front ++ (c :: mark ++ back) = front' ++ (c :: mark ++ back')) :
    front = front' ∧ back = back' := by
  obtain ⟨hfronts, hbehind⟩ := append_cons_inj hfront hfront' hsame
  exact ⟨hfronts, List.append_cancel_left hbehind⟩

theorem blanks_append_inj {gap gap' mark back back' : List Char} {c : Char} (hgap : IsBlankText gap)
    (hgap' : IsBlankText gap') (hc : isBlank c = false)
    (hsame : gap ++ (c :: mark ++ back) = gap' ++ (c :: mark ++ back')) : gap = gap' ∧ back = back' :=
  append_mark_inj (not_mem_of_isBlankText hgap hc) (not_mem_of_isBlankText hgap' hc) hsame

theorem Opening.eq_of_cuts {opening opening' : Opening} {source : List Char}
    (h : opening.Cuts source) (h' : opening'.Cuts source) : opening = opening' := by
  obtain ⟨lead, gap, params, rest⟩ := opening
  obtain ⟨lead', gap', params', rest'⟩ := opening'
  have hsame := h.source.symm.trans h'.source
  simp only [List.append_assoc] at hsame
  obtain ⟨hlead, hnamed⟩ := blanks_append_inj h.lead h'.lead (by decide) hsame
  obtain ⟨hgap, hinside⟩ := blanks_append_inj h.gap h'.gap (by decide) hnamed
  obtain ⟨hparams, hrest⟩ := append_mark_inj h.params h'.params hinside
  simp only at hlead hgap hparams hrest
  rw [hlead, hgap, hparams, hrest]

theorem Closing.eq_of_cuts {closing closing' : Closing} {rest : List Char}
    (h : closing.Cuts rest) (h' : closing'.Cuts rest) : closing = closing' := by
  -- both bodies are what the search for the closing tag finds
  have hinner : closing.inner = closing'.inner := by
    have hfound : some closing.inner = some closing'.inner := by
      rw [← beforeClosing?_eq_some_iff.mpr h.closes, beforeClosing?_eq_some_iff.mpr h'.closes]
    exact Option.some.inj hfound
  obtain ⟨inner, gap, endGap, tail⟩ := closing
  obtain ⟨inner', gap', endGap', tail'⟩ := closing'
  have hsame := h.rest.symm.trans h'.rest
  simp only [List.append_assoc] at hsame hinner
  rw [hinner] at hsame
  have hnamed := List.append_cancel_left (List.append_cancel_left hsame)
  obtain ⟨hgap, hbehind⟩ := blanks_append_inj h.gap h'.gap (by decide) hnamed
  obtain ⟨hendGap, htail⟩ := blanks_append_inj h.endGap h'.endGap (by decide) hbehind
  simp only at hgap hendGap htail
  rw [hinner, hgap, hendGap, htail]

/-! ### From the pieces to the answer -/

theorem make_eq_error_iff {params body : String} {error : DirectiveError} :
    make params body = .error error ↔
      params.toList.any isReserved = true ∧ error = .forbiddenCharacters params := by
  unfold make
  split
  · next hfree => simp [hfree]
  · next hreserved => simp [hreserved, eq_comm]

variable {source : String} {opening : Opening} {closing : Closing}

theorem parse_of_no_opening (hnone : ¬ ∃ opening : Opening, opening.Cuts source.toList) :
    parse source = .error .missingOpen := by
  have hopening : opening? source.toList = none := by
    apply Option.eq_none_iff_forall_not_mem.mpr
    rintro ⟨params, rest⟩ hfound
    obtain ⟨opening, hcuts, -⟩ := exists_opening_of_opens (opening?_eq_some_iff.mp hfound)
    exact hnone ⟨opening, hcuts⟩
  rw [parse, hopening]

theorem parse_of_no_closing (hopening : opening.Cuts source.toList)
    (hnone : ¬ ∃ closing : Closing, closing.Cuts opening.rest) :
    parse source = .error .missingClose := by
  have hclosing : beforeClosing? opening.rest = none := by
    apply Option.eq_none_iff_forall_not_mem.mpr
    intro inner hfound
    obtain ⟨closing, hcuts, -⟩ := exists_closing_of_closes (beforeClosing?_eq_some_iff.mp hfound)
    exact hnone ⟨closing, hcuts⟩
  rw [parse, opening?_eq_some_iff.mpr hopening.opens]
  simp only
  rw [hclosing]

theorem parse_of_both (hopening : opening.Cuts source.toList) (hclosing : closing.Cuts opening.rest) :
    parse source =
      make (String.ofList opening.params) (String.ofList (bodyOf closing.inner)) :=
  parse_eq_make hopening.opens hclosing.closes (bodyOf_eq_iff.mp rfl)

theorem any_isReserved_params (hopening : opening.Cuts source.toList) :
    (String.ofList opening.params).toList.any isReserved = true ↔
      '\x7b' ∈ opening.params ∨ '\x7d' ∈ opening.params := by
  rw [← Bool.not_eq_false, String.toList_ofList, any_isReserved_eq_false_iff]
  have hpercent := hopening.params
  by_cases hbrace : '\x7b' ∈ opening.params
  · simp [hbrace]
  · simp [hbrace, hpercent]

/-- The three ways that reading can go. -/
inductive Reading (source : String) : Except DirectiveError Directive → Prop where
  | noOpening (hnone : ¬ ∃ opening : Opening, opening.Cuts source.toList) :
      Reading source (.error .missingOpen)
  | noClosing {opening : Opening} (hopening : opening.Cuts source.toList)
      (hnone : ¬ ∃ closing : Closing, closing.Cuts opening.rest) :
      Reading source (.error .missingClose)
  | both {opening : Opening} {closing : Closing} {answer : Except DirectiveError Directive}
      (hopening : opening.Cuts source.toList) (hclosing : closing.Cuts opening.rest)
      (hmade : make (String.ofList opening.params) (String.ofList (bodyOf closing.inner)) = answer) :
      Reading source answer

theorem reading_parse (source : String) : Reading source (parse source) := by
  by_cases hopening : ∃ opening : Opening, opening.Cuts source.toList
  · obtain ⟨opening, hopening⟩ := hopening
    by_cases hclosing : ∃ closing : Closing, closing.Cuts opening.rest
    · obtain ⟨closing, hclosing⟩ := hclosing
      rw [parse_of_both hopening hclosing]
      exact .both hopening hclosing rfl
    · rw [parse_of_no_closing hopening hclosing]
      exact .noClosing hopening hclosing
  · rw [parse_of_no_opening hopening]
    exact .noOpening hopening

theorem parse_eq_missingOpen_iff :
    parse source = .error .missingOpen ↔ ¬ ∃ opening : Opening, opening.Cuts source.toList := by
  constructor
  · intro hread
    have hway := reading_parse source
    rw [hread] at hway
    cases hway with
    | noOpening hnone => exact hnone
    | both hopening hclosing hmade => cases (make_eq_error_iff.mp hmade).2
  · exact parse_of_no_opening

theorem parse_eq_missingClose_iff :
    parse source = .error .missingClose ↔
      ∃ opening : Opening, opening.Cuts source.toList ∧
        ¬ ∃ closing : Closing, closing.Cuts opening.rest := by
  constructor
  · intro hread
    have hway := reading_parse source
    rw [hread] at hway
    cases hway with
    | noClosing hopening hnone => exact ⟨_, hopening, hnone⟩
    | both hopening hclosing hmade => cases (make_eq_error_iff.mp hmade).2
  · rintro ⟨opening, hopening, hclosing⟩
    exact parse_of_no_closing hopening hclosing

/-- Every other answer is what the pieces of both tags make. -/
theorem parse_eq_iff_of_make {answer : Except DirectiveError Directive}
    (hopen : answer ≠ .error .missingOpen) (hclose : answer ≠ .error .missingClose) :
    parse source = answer ↔
      ∃ (opening : Opening) (closing : Closing), opening.Cuts source.toList ∧
        closing.Cuts opening.rest ∧
        make (String.ofList opening.params) (String.ofList (bodyOf closing.inner)) = answer := by
  constructor
  · intro hread
    have hway := reading_parse source
    rw [hread] at hway
    cases hway with
    | noOpening hnone => exact absurd rfl hopen
    | noClosing hopening hnone => exact absurd rfl hclose
    | both hopening hclosing hmade => exact ⟨_, _, hopening, hclosing, hmade⟩
  · rintro ⟨opening, closing, hopening, hclosing, hmade⟩
    rw [parse_of_both hopening hclosing, hmade]

theorem parse_eq_forbidden_iff {shown : String} :
    parse source = .error (.forbiddenCharacters shown) ↔
      ∃ (opening : Opening) (closing : Closing), opening.Cuts source.toList ∧
        closing.Cuts opening.rest ∧ ('\x7b' ∈ opening.params ∨ '\x7d' ∈ opening.params) ∧
        shown = String.ofList opening.params := by
  rw [parse_eq_iff_of_make (by simp) (by simp)]
  constructor
  · rintro ⟨opening, closing, hopening, hclosing, hmade⟩
    obtain ⟨hreserved, hshown⟩ := make_eq_error_iff.mp hmade
    cases hshown
    exact ⟨opening, closing, hopening, hclosing, (any_isReserved_params hopening).mp hreserved, rfl⟩
  · rintro ⟨opening, closing, hopening, hclosing, hbrace, rfl⟩
    refine ⟨opening, closing, hopening, hclosing, make_eq_error_iff.mpr ⟨?_, rfl⟩⟩
    exact (any_isReserved_params hopening).mpr hbrace

theorem parse_eq_ok_iff {directive : Directive} :
    parse source = .ok directive ↔
      ∃ (opening : Opening) (closing : Closing), opening.Cuts source.toList ∧
        closing.Cuts opening.rest ∧ ¬ ('\x7b' ∈ opening.params ∨ '\x7d' ∈ opening.params) ∧
        directive.params = String.ofList (trim opening.params) ∧
        Holds closing.inner directive.body.toList := by
  rw [parse_eq_iff_of_make (by simp) (by simp)]
  constructor
  · rintro ⟨opening, closing, hopening, hclosing, hmade⟩
    obtain ⟨hfree, hparams, hbody⟩ := make_eq_ok_iff.mp hmade
    refine ⟨opening, closing, hopening, hclosing, ?_, ?_, ?_⟩
    · rw [← any_isReserved_params hopening, hfree]
      decide
    · rw [hparams, Text.trimmed, String.toList_ofList]
    · rw [hbody, String.toList_ofList]
      exact bodyOf_eq_iff.mp rfl
  · rintro ⟨opening, closing, hopening, hclosing, hbrace, hparams, hholds⟩
    refine ⟨opening, closing, hopening, hclosing, make_eq_ok_iff.mpr ⟨?_, ?_, ?_⟩⟩
    · rw [← any_isReserved_params hopening] at hbrace
      exact Bool.eq_false_iff.mpr hbrace
    · rw [hparams, Text.trimmed, String.toList_ofList]
    · rw [bodyOf_eq_iff.mpr hholds, String.ofList_toList]

/-- **A directive is read by its form.**  Each tag can be cut off in one way at most,
    and what is there decides the answer: no opening tag, no closing tag behind it,
    a brace in the parameters, or the directive with the parameters trimmed and the
    body without the line feeds of the tags. -/
theorem parse_source_by_form (source : String) :
    (∀ opening opening' : Opening, opening.Cuts source.toList → opening'.Cuts source.toList →
      opening = opening') ∧
    (∀ (rest : List Char) (closing closing' : Closing), closing.Cuts rest → closing'.Cuts rest →
      closing = closing') ∧
    (parse source = .error .missingOpen ↔ ¬ ∃ opening : Opening, opening.Cuts source.toList) ∧
    (parse source = .error .missingClose ↔
      ∃ opening : Opening, opening.Cuts source.toList ∧
        ¬ ∃ closing : Closing, closing.Cuts opening.rest) ∧
    (∀ shown, parse source = .error (.forbiddenCharacters shown) ↔
      ∃ (opening : Opening) (closing : Closing), opening.Cuts source.toList ∧
        closing.Cuts opening.rest ∧ ('\x7b' ∈ opening.params ∨ '\x7d' ∈ opening.params) ∧
        shown = String.ofList opening.params) ∧
    (∀ directive, parse source = .ok directive ↔
      ∃ (opening : Opening) (closing : Closing), opening.Cuts source.toList ∧
        closing.Cuts opening.rest ∧ ¬ ('\x7b' ∈ opening.params ∨ '\x7d' ∈ opening.params) ∧
        directive.params = String.ofList (trim opening.params) ∧
        Holds closing.inner directive.body.toList) := by
  refine ⟨fun opening opening' => Opening.eq_of_cuts, fun rest closing closing' => Closing.eq_of_cuts,
    parse_eq_missingOpen_iff, parse_eq_missingClose_iff, ?_, ?_⟩
  · intro shown
    exact parse_eq_forbidden_iff
  · intro directive
    exact parse_eq_ok_iff

end CodeFigure.Directive
