/-
  CodeFigure/Proofs/Directive/Rendering.lean
  ==========================================
  **A directive is rendered like its parameters and its body.**

  There are two ways to a figure: parameters and a body are rendered as they are, or
  they are made a directive first.  A directive keeps its parameters without the blanks
  around them, so the two ways read different texts.  They read the same of them, and
  the figure and the uses of the highlighter do not show which way was taken
  (`render_make_agrees`).  Only the log shows the parameters themselves.
-/
import CodeFigure.Proofs.Directive.RoundTrip
import CodeFigure.Proofs.Figure.Rendering
import CodeFigure.Proofs.Params.Placement

namespace CodeFigure.Directive

open CodeFigure.Text

/-- **The detour through a directive does not show.**  Parameters that a tag can hold
    make a directive with any body, and every renderer gives it the markup that it gives
    the parameters and the body, with the same uses of the highlighter.  This is because
    blanks around any parameters change nothing that is read from them. -/
theorem render_make_agrees {params : String}
    (hfree : '\x7b' ∉ params.toList ∧ '%' ∉ params.toList ∧ '\x7d' ∉ params.toList)
    (body : String) :
    (∃ directive, make params body = .ok directive ∧ ∀ renderer : Renderer,
      (directive.render renderer).html = (renderer.render params body).html ∧
        (directive.render renderer).calls = (renderer.render params body).calls) ∧
    ∀ before raw after : String, IsBlankText before.toList → IsBlankText after.toList →
      (Params.parse (before ++ raw ++ after)).fileType = (Params.parse raw).fileType ∧
        (Params.parse (before ++ raw ++ after)).caption = (Params.parse raw).caption ∧
        (Params.parse (before ++ raw ++ after)).title = (Params.parse raw).title := by
  constructor
  · obtain ⟨directive, hmade, hparams, hbody⟩ :=
      exists_make (any_isReserved_eq_false_iff.mpr hfree) body
    refine ⟨directive, hmade, ?_⟩
    intro renderer
    obtain ⟨htype, hcaption, -⟩ := Params.parse_trimmed params
    rw [render, hparams, hbody]
    exact renderer.renderParsed_eq_of_read body hcaption htype
  · intro before raw after hbefore hafter
    exact Params.parse_between_blanks hbefore raw hafter

/-- The tag may stand between blanks at the start of the parameters, and blanks of any
    kind around all. -/
theorem render_make_agrees_padded :
    (∃ directive, make "\u3000lang:rb\n a.py /b \u0085" "x <y>\n" = .ok directive ∧
      ∀ renderer : Renderer,
        (directive.render renderer).html =
            (renderer.render "\u3000lang:rb\n a.py /b \u0085" "x <y>\n").html ∧
          (directive.render renderer).calls =
            (renderer.render "\u3000lang:rb\n a.py /b \u0085" "x <y>\n").calls) ∧
    (Params.parse ("\u2028" ++ "a.py /b lang:rb" ++ "\t")).fileType =
        (Params.parse "a.py /b lang:rb").fileType ∧
      (Params.parse ("\u2028" ++ "a.py /b lang:rb" ++ "\t")).caption =
        (Params.parse "a.py /b lang:rb").caption ∧
      (Params.parse ("\u2028" ++ "a.py /b lang:rb" ++ "\t")).title =
        (Params.parse "a.py /b lang:rb").title := by
  have hfree : '\x7b' ∉ "\u3000lang:rb\n a.py /b \u0085".toList ∧
      '%' ∉ "\u3000lang:rb\n a.py /b \u0085".toList ∧
      '\x7d' ∉ "\u3000lang:rb\n a.py /b \u0085".toList := by decide
  obtain ⟨hrendered, hpadded⟩ := render_make_agrees hfree "x <y>\n"
  exact ⟨hrendered, hpadded "\u2028" "a.py /b lang:rb" "\t" (by decide) (by decide)⟩

end CodeFigure.Directive
