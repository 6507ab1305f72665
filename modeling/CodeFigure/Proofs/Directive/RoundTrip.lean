/-
  CodeFigure/Proofs/Directive/RoundTrip.lean
  ==========================================
  **What is written as a directive is read back as that directive.**

  The body of a directive is not escaped, so nothing keeps it from holding tags
  or line feeds of its own.  Reading gives the directive back all the same, with
  any blanks around the source (`parse_source_between_blanks`):

    * the opening tag ends at the first `%`, and parameters hold none
      (`opens_openTag`);
    * only the last closing tag has nothing but blanks behind it
      (`closes_closeTag`);
    * each tag takes the one line feed that was written for it, and no other
      (`holds_betweenLineFeeds`).

  So a directive that is written and read again any number of times, padded
  differently each time, stays what it is (`reread_eq_ok`).
-/
import CodeFigure.Proofs.Directive.Tags

namespace CodeFigure.Directive

open CodeFigure.Text

/-! ### Making directives -/

theorem eq_of_parts {directive other : Directive} (hparams : directive.params = other.params)
    (hbody : directive.body = other.body) : directive = other := by
  cases directive
  cases other
  cases hparams
  cases hbody
  rfl

theorem any_isReserved_eq_false_iff {s : List Char} :
    s.any isReserved = false ↔ '\x7b' ∉ s ∧ '%' ∉ s ∧ '\x7d' ∉ s := by
  rw [List.any_eq_false]
  constructor
  · intro hfree
    exact ⟨fun h => hfree _ h rfl, fun h => hfree _ h rfl, fun h => hfree _ h rfl⟩
  · rintro ⟨hopen, hpercent, hclose⟩ c hc hreserved
    simp only [isReserved, Bool.or_eq_true, beq_iff_eq] at hreserved
    rcases hreserved with (rfl | rfl) | rfl
    · exact hopen hc
    · exact hpercent hc
    · exact hclose hc

/-- **Which directives are made.**  Those whose parameters are unreserved, and
    they hold the parameters trimmed and the body as it is. -/
theorem make_eq_ok_iff {params body : String} {directive : Directive} :
    make params body = .ok directive ↔
      params.toList.any isReserved = false ∧ directive.params = Text.trimmed params ∧
        directive.body = body := by
  unfold make
  split
  · next hfree =>
    constructor
    · intro hmade
      cases hmade
      exact ⟨hfree, rfl, rfl⟩
    · rintro ⟨-, hparams, hbody⟩
      exact congrArg Except.ok (eq_of_parts hparams.symm hbody.symm)
  · next hreserved =>
    constructor
    · intro hmade
      cases hmade
    · rintro ⟨hfree, -⟩
      exact absurd hfree hreserved

theorem exists_make {params : String} (hfree : params.toList.any isReserved = false)
    (body : String) :
    ∃ directive, make params body = .ok directive ∧ directive.params = Text.trimmed params ∧
      directive.body = body := by
  obtain ⟨directive, hmade⟩ : ∃ directive, make params body = .ok directive := by
    rw [make, dif_pos hfree]
    exact ⟨_, rfl⟩
  exact ⟨directive, hmade, (make_eq_ok_iff.mp hmade).2⟩

/-! ### Reading by form -/

theorem parse_eq_make {source : String} {params rest inner body : List Char}
    (hopens : Opens source.toList params rest) (hcloses : Closes rest inner)
    (hholds : Holds inner body) :
    parse source = make (String.ofList params) (String.ofList body) := by
  rw [parse, opening?_eq_some_iff.mpr hopens]
  simp only
  rw [beforeClosing?_eq_some_iff.mpr hcloses]
  simp only
  rw [bodyOf_eq_iff.mpr hholds]

/-! ### The parts of a written directive -/

/-- What stands in the opening tag between its name and its end. -/
def writtenParams (params : String) : List Char :=
  match params.toList with
  | [] => [' ']
  | _ => [' '] ++ params.toList ++ [' ']

theorem toList_openTag (params : String) :
    (openTag params).toList =
      "\x7b%".toList ++ ([' '] ++ ("codeblock".toList ++ (writtenParams params ++ "%\x7d".toList))) := by
  unfold openTag writtenParams
  cases hparams : params.toList with
  | nil => simp
  | cons c rest => simp [hparams]

theorem trim_writtenParams {params : String} (htrimmed : trim params.toList = params.toList) :
    trim (writtenParams params) = params.toList := by
  have hspace : IsBlankText [' '] := isBlankText_singleton (by decide)
  unfold writtenParams
  split
  · next hempty =>
    rw [hempty]
    rfl
  · rw [trim_append_append hspace _ hspace, htrimmed]

theorem any_isReserved_writtenParams {params : String}
    (hfree : params.toList.any isReserved = false) :
    (writtenParams params).any isReserved = false := by
  unfold writtenParams
  split
  · rfl
  · rw [List.any_append, List.any_append, hfree]
    rfl

theorem startsWord_writtenParams (params : String) : startsWord (writtenParams params) = false := by
  unfold writtenParams
  split
  · rfl
  · rfl

theorem opens_openTag {params : String} (hfree : params.toList.any isReserved = false)
    {lead : List Char} (hlead : IsBlankText lead) (rest : List Char) :
    Opens (lead ++ (openTag params).toList ++ rest) (writtenParams params) rest := by
  have hpercent : '%' ∉ writtenParams params :=
    (any_isReserved_eq_false_iff.mp (any_isReserved_writtenParams hfree)).2.1
  refine ⟨lead, [' '], hlead, isBlankText_singleton (by decide), ?_,
    startsWord_writtenParams params, hpercent⟩
  rw [toList_openTag]
  simp only [List.append_assoc]

theorem closes_closeTag (inner : List Char) {tail : List Char} (htail : IsBlankText tail) :
    Closes (inner ++ closeTag.toList ++ tail) inner := by
  have hspace : IsBlankText [' '] := isBlankText_singleton (by decide)
  refine ⟨[' '], [' '], tail, hspace, hspace, htail, ?_⟩
  have hclose : closeTag.toList =
      "\x7b%".toList ++ [' '] ++ "endcodeblock".toList ++ [' '] ++ "%\x7d".toList := rfl
  rw [hclose]
  simp only [List.append_assoc]

/-- A body on lines of its own is held as it is, whatever line feeds it has. -/
theorem holds_betweenLineFeeds (body : List Char) : Holds ('\n' :: (body ++ ['\n'])) body :=
  ⟨body ++ ['\n'], Or.inl rfl, Or.inl rfl⟩

/-! ### The round trip -/

/-- **Reading undoes writing**, also with blanks around the source. -/
theorem parse_source_between_blanks (directive : Directive) {before after : String}
    (hbefore : IsBlankText before.toList) (hafter : IsBlankText after.toList) :
    parse (before ++ directive.source ++ after) = .ok directive := by
  have htail : IsBlankText (['\n'] ++ after.toList) :=
    isBlankText_append (isBlankText_singleton (by decide)) hafter
  have hopens := opens_openTag directive.unreserved hbefore
    ('\n' :: (directive.body.toList ++ ['\n']) ++ closeTag.toList ++ (['\n'] ++ after.toList))
  have hcloses := closes_closeTag ('\n' :: (directive.body.toList ++ ['\n'])) htail
  have hsource : (before ++ directive.source ++ after).toList =
      before.toList ++ (openTag directive.params).toList ++
        ('\n' :: (directive.body.toList ++ ['\n']) ++ closeTag.toList ++
          (['\n'] ++ after.toList)) := by
    simp [source]
  rw [← hsource] at hopens
  rw [parse_eq_make hopens hcloses (holds_betweenLineFeeds directive.body.toList), make_eq_ok_iff]
  refine ⟨?_, ?_, ?_⟩
  · rw [String.toList_ofList]
    exact any_isReserved_writtenParams directive.unreserved
  · rw [Text.trimmed, String.toList_ofList, trim_writtenParams directive.trimmed, String.ofList_toList]
  · exact String.ofList_toList.symm

theorem parse_source (directive : Directive) : parse directive.source = .ok directive := by
  have hpadded : parse ("" ++ directive.source ++ "") = .ok directive :=
    parse_source_between_blanks directive isBlankText_nil isBlankText_nil
  rwa [String.empty_append, String.append_empty] at hpadded

/-- Write a directive, pad the source and read it, once for each padding. -/
def reread (directive : Directive) : List (String × String) → Except DirectiveError Directive
  | [] => .ok directive
  | (before, after) :: paddings =>
    match parse (before ++ directive.source ++ after) with
    | .error error => .error error
    | .ok again => again.reread paddings

theorem reread_eq_ok (directive : Directive) {paddings : List (String × String)}
    (hblank : ∀ padding ∈ paddings,
      IsBlankText padding.1.toList ∧ IsBlankText padding.2.toList) :
    directive.reread paddings = .ok directive := by
  induction paddings with
  | nil => rfl
  | cons padding paddings ih =>
    obtain ⟨hbefore, hafter⟩ := hblank padding List.mem_cons_self
    rw [reread, parse_source_between_blanks directive hbefore hafter]
    exact ih fun other hother => hblank other (List.mem_cons_of_mem padding hother)

/-- **Round trip under padding.**  A directive that is made is read back from its
    source between any blanks, and so it is after any number of rounds of writing
    and reading.  Nothing is asked of the body. -/
theorem parse_padded_source {params body : String} {directive : Directive}
    (hmade : make params body = .ok directive) :
    (∀ before after : String, IsBlankText before.toList → IsBlankText after.toList →
      parse (before ++ directive.source ++ after) = .ok directive) ∧
    (∀ paddings : List (String × String),
      (∀ padding ∈ paddings, IsBlankText padding.1.toList ∧ IsBlankText padding.2.toList) →
        directive.reread paddings = .ok directive) ∧
    directive.params = Text.trimmed params ∧ directive.body = body := by
  obtain ⟨-, hparams, hbody⟩ := make_eq_ok_iff.mp hmade
  refine ⟨?_, ?_, hparams, hbody⟩
  · intro before after hbefore hafter
    exact parse_source_between_blanks directive hbefore hafter
  · intro paddings hblank
    exact reread_eq_ok directive hblank

/-- The body may be a closing tag between line feeds. -/
theorem parse_padded_source_closeTag :
    ∃ directive, make " a.rb\n" "\n\n\x7b% endcodeblock %\x7d\n" = .ok directive ∧
      parse ("\r\n" ++ directive.source ++ " \n") = .ok directive ∧
      directive.reread [("", "\t"), (" ", "")] = .ok directive := by
  have hmade : make " a.rb\n" "\n\n\x7b% endcodeblock %\x7d\n" =
      .ok ⟨"a.rb", "\n\n\x7b% endcodeblock %\x7d\n", by decide, by decide⟩ :=
    make_eq_ok_iff.mpr ⟨by decide, by decide, rfl⟩
  obtain ⟨hread, hrounds, -, -⟩ := parse_padded_source hmade
  exact ⟨_, hmade, hread _ _ (by decide) (by decide), hrounds _ (by decide)⟩

end CodeFigure.Directive
