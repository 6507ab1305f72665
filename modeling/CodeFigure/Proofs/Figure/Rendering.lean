/-
  CodeFigure/Proofs/Figure/Rendering.lean
  =======================================
  **What rendering a code block does, beside the markup of the code.**

  Whatever the highlighter answers, a figure is the caption, some markup for the
  code and the decorations around both (`exists_assemble_renderParsed`), and the
  highlighter has been asked once about the untouched body if highlighting is on
  and there is a file type, and never otherwise (`calls_renderParsed`).  The markup for
  the code is the table of numbered lines, or what the highlighter returned
  (`html_renderParsed_cases`).
-/
import CodeFigure.Figure.Basic

namespace CodeFigure

def Renderer.uses (renderer : Renderer) (body : String) (params : Params) : List HighlightCall :=
  if renderer.highlighting then
    (params.fileType.map fun fileType => ⟨body, fileType⟩).toList
  else []

theorem Figure.calls_render (body : String) (params : Params) (highlighter : Highlighter)
    (decorations : Decorations) :
    (Figure.render body params highlighter decorations).calls =
      (params.fileType.map fun fileType => (⟨body, fileType⟩ : HighlightCall)).toList := by
  unfold Figure.render
  cases params.fileType with
  | none => rfl
  | some fileType =>
    simp only
    cases highlighter body fileType with
    | ok code => rfl
    | error error => rfl

namespace Renderer

variable (renderer : Renderer) (body : String) (params : Params)

theorem calls_renderParsed :
    (renderer.renderParsed body params).calls = renderer.uses body params := by
  unfold renderParsed uses
  split
  · exact Figure.calls_render ..
  · exact Figure.calls_render ..

theorem uses_eq_nil_iff :
    renderer.uses body params = [] ↔ renderer.highlighting = false ∨ params.fileType = none := by
  unfold uses
  cases renderer.highlighting <;> cases params.fileType <;> simp

theorem length_uses_le : (renderer.uses body params).length ≤ 1 := by
  unfold uses
  split
  · cases params.fileType <;> simp
  · simp

theorem code_of_mem_uses {call : HighlightCall} (hcall : call ∈ renderer.uses body params) :
    call.code = body := by
  unfold uses at hcall
  split at hcall
  · obtain ⟨fileType, -, rfl⟩ := Option.map_eq_some_iff.mp (Option.mem_toList.mp hcall)
    rfl
  · cases hcall

/-- The code is shown as the table of numbered lines: highlighting is off, or there is
    no file type, or the highlighter fails. -/
def ShowsTable : Prop :=
  renderer.highlighting = false ∨
    ∀ fileType ∈ params.fileType, ∃ error, renderer.highlighter body fileType = .error error

/-- **The two kinds of figures.**  The code is the table, or what the highlighter made
    of it. -/
theorem html_renderParsed_cases :
    (renderer.ShowsTable body params ∧
      (renderer.renderParsed body params).html =
        Figure.plain params.caption body renderer.decorations) ∨
    (¬ renderer.ShowsTable body params ∧
      ∃ fileType code, params.fileType = some fileType ∧
        renderer.highlighter body fileType = .ok code ∧
        (renderer.renderParsed body params).html =
          Figure.assemble params.caption code renderer.decorations) := by
  unfold renderParsed ShowsTable Figure.render
  cases renderer.highlighting with
  | false => simp
  | true =>
    simp only [if_true]
    cases params.fileType with
    | none => simp
    | some fileType =>
      simp only
      cases hcall : renderer.highlighter body fileType with
      | ok code => simp [hcall]
      | error error => simp [hcall]

theorem exists_assemble_renderParsed :
    ∃ code, (renderer.renderParsed body params).html =
      Figure.assemble params.caption code renderer.decorations := by
  rcases renderer.html_renderParsed_cases body params with ⟨-, hhtml⟩ | ⟨-, -, code, -, -, hhtml⟩
  · exact ⟨Table.markup body, hhtml⟩
  · exact ⟨code, hhtml⟩

/-- The parameters as they were written only matter to the log. -/
theorem renderParsed_eq_of_read {params other : Params} (hcaption : params.caption = other.caption)
    (htype : params.fileType = other.fileType) :
    (renderer.renderParsed body params).html = (renderer.renderParsed body other).html ∧
      (renderer.renderParsed body params).calls = (renderer.renderParsed body other).calls := by
  constructor
  · unfold renderParsed Figure.render
    rw [htype, hcaption]
    split
    · cases other.fileType with
      | none => rfl
      | some fileType =>
        simp only
        cases renderer.highlighter body fileType with
        | ok code => rfl
        | error error => rfl
    · rfl
  · rw [calls_renderParsed, calls_renderParsed, uses, uses, htype]

end Renderer

end CodeFigure
