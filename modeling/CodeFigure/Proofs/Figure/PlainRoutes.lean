/-
  CodeFigure/Proofs/Figure/PlainRoutes.lean
  =========================================
  **All routes to the table of numbered lines lead to one figure.**

  A figure shows the table when highlighting is off, when there is no file type
  and when the highlighter fails (`showsTable_iff`).  The reader cannot tell which
  of these it was: the figure consists of the caption, the table and the
  decorations.  What tells the routes apart is listed beside the figure, namely
  the uses of the highlighter and the warnings about those that failed
  (`mem_log_renderParsed_iff`).

  The list of uses is complete.  Another highlighter that answers them alike gives
  the same figure with the same uses and warnings (`renderParsed_of_agree`), so
  nothing else has been asked.
-/
import CodeFigure.Proofs.Figure.Rendering

namespace CodeFigure.Renderer

/-- The figure, the uses and the warnings are those that the three conditions
    (highlighting, a file type, the highlighter's answer) call for. -/
structure Accounted (renderer : Renderer) (body : String) (params : Params) (rendered : Rendered) :
    Prop where
  plain : renderer.ShowsTable body params →
    rendered.html = renderer.decorations.before.getD "" ++
      ("<figure class='code'>" ++ params.caption.getD "" ++ Table.markup body ++ "</figure>") ++
      renderer.decorations.after.getD ""
  /-- Markup from the highlighter stands where the table would. -/
  highlighted : ∀ fileType code, renderer.highlighting = true → params.fileType = some fileType →
    renderer.highlighter body fileType = .ok code →
      rendered.html = renderer.decorations.before.getD "" ++
        ("<figure class='code'>" ++ params.caption.getD "" ++ code ++ "</figure>") ++
        renderer.decorations.after.getD ""
  used : ∀ call, rendered.calls = [call] ↔
    renderer.highlighting = true ∧ params.fileType = some call.fileType ∧ call.code = body
  unused : rendered.calls = [] ↔ renderer.highlighting = false ∨ params.fileType = none
  warned : ∀ entry, entry ∈ rendered.log ↔
    ∃ fileType error, renderer.highlighting = true ∧ params.fileType = some fileType ∧
      renderer.highlighter body fileType = .error error ∧ entry.level = .warn ∧
      entry.message = "Highlighting failed, rendering plain code" ∧
      entry.fields = [("error", error.message), ("details", error.details),
        ("cause", String.intercalate ": " error.causes), ("file_type", fileType), ("body", body),
        ("params", params.raw)]
  warnedOnce : rendered.log.length ≤ 1

variable (renderer : Renderer) (body : String) (params : Params)

/-! ### Routes -/

/-- **The three routes to the table.** -/
theorem showsTable_iff :
    renderer.ShowsTable body params ↔
      renderer.highlighting = false ∨ params.fileType = none ∨
        ∃ fileType error, params.fileType = some fileType ∧
          renderer.highlighter body fileType = .error error := by
  unfold ShowsTable
  cases params.fileType with
  | none => simp
  | some fileType => simp

theorem html_of_showsTable (hshows : renderer.ShowsTable body params) :
    (renderer.renderParsed body params).html =
      Figure.plain params.caption body renderer.decorations := by
  rcases renderer.html_renderParsed_cases body params with ⟨-, hhtml⟩ | ⟨hnot, -⟩
  · exact hhtml
  · exact absurd hshows hnot

theorem html_of_highlighted {fileType code : String} (hon : renderer.highlighting = true)
    (htype : params.fileType = some fileType) (hcode : renderer.highlighter body fileType = .ok code) :
    (renderer.renderParsed body params).html =
      Figure.assemble params.caption code renderer.decorations := by
  rcases renderer.html_renderParsed_cases body params with
    ⟨hshows, -⟩ | ⟨-, fileType', code', htype', hcode', hhtml⟩
  · rcases (renderer.showsTable_iff body params).mp hshows with hoff | hnone | ⟨_, _, htype', hfail⟩
    · rw [hon] at hoff
      cases hoff
    · cases htype.symm.trans hnone
    · cases htype.symm.trans htype'
      cases hcode.symm.trans hfail
  · cases htype.symm.trans htype'
    cases hcode.symm.trans hcode'
    exact hhtml

/-! ### Uses -/

theorem uses_eq_singleton_iff (call : HighlightCall) :
    renderer.uses body params = [call] ↔
      renderer.highlighting = true ∧ params.fileType = some call.fileType ∧ call.code = body := by
  obtain ⟨code, fileType⟩ := call
  unfold uses
  cases renderer.highlighting with
  | false => simp
  | true =>
    cases params.fileType with
    | none => simp
    | some other => simp [eq_comm, and_comm]

/-- **Nothing but the listed uses is asked.** -/
theorem renderParsed_of_agree (highlighter : Highlighter)
    (hagree : ∀ call ∈ renderer.uses body params,
      highlighter call.code call.fileType = renderer.highlighter call.code call.fileType) :
    ({ renderer with highlighter } : Renderer).renderParsed body params =
      renderer.renderParsed body params := by
  unfold uses at hagree
  unfold renderParsed Figure.render
  cases hon : renderer.highlighting with
  | false => rfl
  | true =>
    cases htype : params.fileType with
    | none => rfl
    | some fileType =>
      have hanswer : highlighter body fileType = renderer.highlighter body fileType := by
        apply hagree ⟨body, fileType⟩
        simp [hon, htype]
      simp only [if_true, hanswer]

/-! ### Warnings -/

/-- A failed use leaves one warning, and nothing else does. -/
theorem log_renderParsed :
    (renderer.renderParsed body params).log =
      (renderer.uses body params).filterMap fun call =>
        match renderer.highlighter call.code call.fileType with
        | .ok _ => none
        | .error error => some (Figure.fallbackEntry error call.fileType call.code params.raw) := by
  unfold renderParsed uses Figure.render
  cases renderer.highlighting with
  | false => rfl
  | true =>
    cases params.fileType with
    | none => rfl
    | some fileType =>
      simp only [if_true, Option.map_some, Option.toList_some]
      cases hanswer : renderer.highlighter body fileType with
      | ok code => simp [hanswer]
      | error error => simp [hanswer]

theorem eq_fallbackEntry_iff {entry : LogEntry} {error : HighlightError} {fileType body raw : String} :
    entry = Figure.fallbackEntry error fileType body raw ↔
      entry.level = .warn ∧ entry.message = "Highlighting failed, rendering plain code" ∧
        entry.fields = [("error", error.message), ("details", error.details),
          ("cause", String.intercalate ": " error.causes), ("file_type", fileType), ("body", body),
          ("params", raw)] := by
  cases entry
  simp [Figure.fallbackEntry]

theorem mem_log_renderParsed_iff (entry : LogEntry) :
    entry ∈ (renderer.renderParsed body params).log ↔
      ∃ fileType error, renderer.highlighting = true ∧ params.fileType = some fileType ∧
        renderer.highlighter body fileType = .error error ∧
        entry = Figure.fallbackEntry error fileType body params.raw := by
  rw [log_renderParsed, List.mem_filterMap, uses]
  constructor
  · rintro ⟨call, hcall, hentry⟩
    split at hcall
    · next hon =>
      obtain ⟨fileType, htype, rfl⟩ := Option.map_eq_some_iff.mp (Option.mem_toList.mp hcall)
      simp only at hentry
      cases hanswer : renderer.highlighter body fileType with
      | ok code => simp [hanswer] at hentry
      | error error =>
        rw [hanswer] at hentry
        exact ⟨fileType, error, hon, htype, hanswer, (Option.some.inj hentry).symm⟩
    · cases hcall
  · rintro ⟨fileType, error, hon, htype, hanswer, rfl⟩
    exact ⟨⟨body, fileType⟩, by simp [hon, htype], by simp [hanswer]⟩

theorem length_log_renderParsed_le : (renderer.renderParsed body params).log.length ≤ 1 := by
  rw [log_renderParsed]
  exact Nat.le_trans (List.length_filterMap_le _ _) (renderer.length_uses_le body params)

/-! ### All routes together -/

theorem accounted_renderParsed :
    renderer.Accounted body params (renderer.renderParsed body params) where
  plain := renderer.html_of_showsTable body params
  highlighted _ _ := renderer.html_of_highlighted body params
  used call := by rw [calls_renderParsed, uses_eq_singleton_iff]
  unused := by rw [calls_renderParsed, uses_eq_nil_iff]
  warned entry := by simp only [mem_log_renderParsed_iff, eq_fallbackEntry_iff]
  warnedOnce := renderer.length_log_renderParsed_le body params

/-- **All plain figures are alike.**  Without highlighting, without a file type and
    with a highlighter that fails, the figure is the plain one, and two renderers
    that show the table under one caption and with the same decorations agree on
    it, whatever else tells them apart.  The highlighter is asked once, about the
    untouched body, or not at all; the warning says that it failed. -/
theorem renderParsed_routes_agree :
    (renderer.ShowsTable body params ↔
      renderer.highlighting = false ∨ params.fileType = none ∨
        ∃ fileType error, params.fileType = some fileType ∧
          renderer.highlighter body fileType = .error error) ∧
    renderer.Accounted body params (renderer.renderParsed body params) ∧
    (∀ (other : Renderer) (others : Params), renderer.ShowsTable body params →
      other.ShowsTable body others → other.decorations = renderer.decorations →
      others.caption = params.caption →
        (other.renderParsed body others).html = (renderer.renderParsed body params).html) ∧
    ∀ highlighter : Highlighter,
      (∀ call ∈ (renderer.renderParsed body params).calls,
        highlighter call.code call.fileType = renderer.highlighter call.code call.fileType) →
      ({ renderer with highlighter } : Renderer).renderParsed body params =
        renderer.renderParsed body params := by
  refine ⟨renderer.showsTable_iff body params, renderer.accounted_renderParsed body params, ?_, ?_⟩
  · intro other others hshows hshows' hdecorations hcaption
    rw [html_of_showsTable _ _ _ hshows, html_of_showsTable _ _ _ hshows', hdecorations, hcaption]
  · intro highlighter hagree
    rw [calls_renderParsed] at hagree
    exact renderer.renderParsed_of_agree body params highlighter hagree

/-- A highlighter that refuses everything, and one that would take everything but is
    switched off, make the same figure; only the first is used, and warned about. -/
theorem renderParsed_routes_agree_refusing :
    let refusing : Renderer := { highlighter := fun _ fileType => .error (.unknownFileType fileType) }
    let idle : Renderer := { highlighter := fun code _ => .ok code, highlighting := false }
    let refused := refusing.renderParsed " a < b\n" ⟨some "rs", none, none, "lang:rs"⟩
    let plain := idle.renderParsed " a < b\n" ⟨some "py", none, some "a.py", "a.py"⟩
    refused.html = plain.html ∧
      plain.html = "<figure class='code'><div class='highlight'><table><tr><td class='gutter'>" ++
        "<pre class='line-numbers'><span class='line-number'>1</span>\n</pre></td>" ++
        "<td class='code'><pre><code><span class='line'>a &lt; b</span></code></pre></td>" ++
        "</tr></table></div></figure>" ∧
      refused.calls = [⟨" a < b\n", "rs"⟩] ∧ plain.calls = [] ∧
      refused.log = [⟨.warn, "Highlighting failed, rendering plain code",
        [("error", "no syntax found for file type `rs`"), ("details", "UnknownFileType(\"rs\")"),
          ("cause", ""), ("file_type", "rs"), ("body", " a < b\n"), ("params", "lang:rs")]⟩] ∧
      plain.log = [] := by
  intro refusing idle refused plain
  obtain ⟨-, hrefused, -, -⟩ :=
    renderParsed_routes_agree refusing " a < b\n" ⟨some "rs", none, none, "lang:rs"⟩
  obtain ⟨-, hplain, hsame, -⟩ :=
    renderParsed_routes_agree idle " a < b\n" ⟨some "py", none, some "a.py", "a.py"⟩
  have hshows : refusing.ShowsTable " a < b\n" ⟨some "rs", none, none, "lang:rs"⟩ := by
    refine .inr ?_
    rintro _ ⟨⟩
    exact ⟨.unknownFileType "rs", rfl⟩
  refine ⟨hsame refusing _ (.inl rfl) hshows rfl rfl, ?_, (hrefused.used _).mpr ⟨rfl, rfl, rfl⟩,
    hplain.unused.mpr (.inl rfl), ?_, rfl⟩
  · exact (hplain.plain (.inl rfl)).trans (by decide +kernel)
  · rw [log_renderParsed]
    decide +kernel

end CodeFigure.Renderer
