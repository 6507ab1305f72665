/-
  CodeFigure/Proofs/Gist/Course.lean
  ==================================
  **What becomes of a reference, and the detour through source text.**

  Rendering a gist can go five ways (`Course`): the reference is unreadable, the
  host is not reached, it refuses, the file has no parameters that a tag can hold,
  or the file is rendered.  `tryRender_course` says that it goes one of them, and
  what is asked, used and reported on the way.  Six ways would be expected: the
  file is written as a directive and that is read again, so reading might fail.
  It does not, since reading undoes writing.

  For the same reason a file that is rendered is rendered as if its parameters
  and contents had been handed over directly.
-/
import CodeFigure.Gist.Tag
import CodeFigure.Proofs.Directive.RoundTrip
import CodeFigure.Proofs.Figure.Rendering

namespace CodeFigure

/-! ### Resolving a reference -/

namespace Resolver

variable {resolver : Resolver} {past : List String} {reference : Reference}

theorem resolve_of_error {error : TransportError}
    (hanswer : resolver.client past (resolver.rawUrl reference) = .error error) :
    resolver.resolve past reference =
      ⟨.error error, [resolver.rawUrl reference],
        [fetchingEntry (resolver.rawUrl reference) reference]⟩ := by
  simp only [resolve, hanswer]

theorem resolve_of_isError {response : Response}
    (hanswer : resolver.client past (resolver.rawUrl reference) = .ok response)
    (hstatus : response.isError = true) :
    resolver.resolve past reference =
      ⟨.ok (.failure (failureReason (resolver.prettyUrl reference) response)
          (resolver.rawUrl reference)), [resolver.rawUrl reference],
        [fetchingEntry (resolver.rawUrl reference) reference,
          failedEntry (resolver.rawUrl reference) response.status]⟩ := by
  simp only [resolve, hanswer]
  rw [if_pos hstatus]

theorem resolve_of_not_isError {response : Response}
    (hanswer : resolver.client past (resolver.rawUrl reference) = .ok response)
    (hstatus : response.isError = false) :
    resolver.resolve past reference =
      ⟨.ok (.success response.body), [resolver.rawUrl reference],
        [fetchingEntry (resolver.rawUrl reference) reference]⟩ := by
  simp only [resolve, hanswer]
  rw [if_neg (by rw [hstatus]; decide)]

/-- Whatever the answer, there is one request. -/
theorem requests_resolve (resolver : Resolver) (past : List String) (reference : Reference) :
    (resolver.resolve past reference).requests = [resolver.rawUrl reference] := by
  cases hanswer : resolver.client past (resolver.rawUrl reference) with
  | error error => rw [resolve_of_error hanswer]
  | ok response =>
    cases hstatus : response.isError with
    | true => rw [resolve_of_isError hanswer hstatus]
    | false => rw [resolve_of_not_isError hanswer hstatus]

end Resolver

namespace GistTag

variable {tag : GistTag} {past : List String} {text : String} {reference : Reference}

/-! ### Rendering a file -/

def fileWith (tag : GistTag) (reference : Reference) (body : String) : GistFile where
  code := body
  gistUrl := tag.resolver.prettyUrl reference
  filename := reference.filename

theorem download_of_not_isError {response : Response}
    (hanswer : tag.resolver.client past (tag.resolver.rawUrl reference) = .ok response)
    (hstatus : response.isError = false) :
    tag.download past reference =
      ⟨.ok (tag.fileWith reference response.body), [tag.resolver.rawUrl reference], [],
        [Resolver.fetchingEntry (tag.resolver.rawUrl reference) reference]⟩ := by
  simp only [download, Resolver.resolve_of_not_isError hanswer hstatus]
  rfl

theorem renderFile_of_reserved {file : GistFile} (hreserved : file.params.toList.any isReserved = true) :
    tag.renderFile reference file =
      ⟨.error (.directive (.forbiddenCharacters file.params)), [], [], []⟩ := by
  have hfail : file.toDirective = .error (.forbiddenCharacters file.params) := by
    rw [GistFile.toDirective, Directive.make, dif_neg (by rw [hreserved]; decide)]
  rw [renderFile, hfail]

theorem exists_toDirective {file : GistFile} (hfree : file.params.toList.any isReserved = false) :
    ∃ directive, file.toDirective = .ok directive ∧
      directive.params = Text.trimmed file.params ∧ directive.body = file.code :=
  Directive.exists_make hfree file.code

/-- A file is rendered from its trimmed parameters and its untouched contents. -/
theorem renderFile_of_unreserved {file : GistFile}
    (hfree : file.params.toList.any isReserved = false) :
    tag.renderFile reference file =
      let shown := tag.renderer.render (Text.trimmed file.params) file.code
      ⟨.ok shown.html, [], shown.calls, renderingEntry reference :: shown.log⟩ := by
  obtain ⟨directive, hmade, hparams, hbody⟩ := exists_toDirective hfree
  rw [renderFile, hmade]
  simp only
  rw [Directive.parse_source]
  simp only [Directive.render, hparams, hbody]

theorem tryRender_of_isError {response : Response}
    (hread : Reference.parse text = .ok reference)
    (hanswer : tag.resolver.client past (tag.resolver.rawUrl reference) = .ok response)
    (hstatus : response.isError = true) :
    tag.tryRender past text =
      ⟨.error (.remote (Resolver.failureReason (tag.resolver.prettyUrl reference) response)
          (tag.resolver.rawUrl reference)),
        [tag.resolver.rawUrl reference], [],
        [Resolver.fetchingEntry (tag.resolver.rawUrl reference) reference,
          Resolver.failedEntry (tag.resolver.rawUrl reference) response.status]⟩ := by
  simp only [tryRender, hread, download, Resolver.resolve_of_isError hanswer hstatus, fileOf]

theorem tryRender_of_unreserved {response : Response}
    (hread : Reference.parse text = .ok reference)
    (hanswer : tag.resolver.client past (tag.resolver.rawUrl reference) = .ok response)
    (hstatus : response.isError = false)
    (hfree : (tag.fileWith reference response.body).params.toList.any isReserved = false) :
    tag.tryRender past text =
      let shown := tag.renderer.render
        (Text.trimmed (tag.fileWith reference response.body).params) response.body
      ⟨.ok shown.html, [tag.resolver.rawUrl reference], shown.calls,
        [Resolver.fetchingEntry (tag.resolver.rawUrl reference) reference,
          renderingEntry reference] ++ shown.log⟩ := by
  simp only [tryRender, hread, download_of_not_isError hanswer hstatus]
  rw [renderFile_of_unreserved hfree]
  rfl

/-! ### The five ways -/

/-- What a run of `tryRender` may be. -/
inductive Course (tag : GistTag) (past : List String) (text : String) :
    Attempt (Except GistError String) → Prop where
  | unreadable {error : ReferenceError} (hread : Reference.parse text = .error error) :
      Course tag past text ⟨.error (.reference error), [], [], []⟩
  | unreached {reference : Reference} {error : TransportError}
      (hread : Reference.parse text = .ok reference)
      (hanswer : tag.resolver.client past (tag.resolver.rawUrl reference) = .error error) :
      Course tag past text
        ⟨.error (.transport error), [tag.resolver.rawUrl reference], [],
          [Resolver.fetchingEntry (tag.resolver.rawUrl reference) reference]⟩
  | refused {reference : Reference} {response : Response}
      (hread : Reference.parse text = .ok reference)
      (hanswer : tag.resolver.client past (tag.resolver.rawUrl reference) = .ok response)
      (hstatus : response.isError = true) :
      Course tag past text
        ⟨.error (.remote (Resolver.failureReason (tag.resolver.prettyUrl reference) response)
            (tag.resolver.rawUrl reference)),
          [tag.resolver.rawUrl reference], [],
          [Resolver.fetchingEntry (tag.resolver.rawUrl reference) reference,
            Resolver.failedEntry (tag.resolver.rawUrl reference) response.status]⟩
  | reserved {reference : Reference} {response : Response}
      (hread : Reference.parse text = .ok reference)
      (hanswer : tag.resolver.client past (tag.resolver.rawUrl reference) = .ok response)
      (hstatus : response.isError = false)
      (hparams : (tag.fileWith reference response.body).params.toList.any isReserved = true) :
      Course tag past text
        ⟨.error (.directive (.forbiddenCharacters (tag.fileWith reference response.body).params)),
          [tag.resolver.rawUrl reference], [],
          [Resolver.fetchingEntry (tag.resolver.rawUrl reference) reference]⟩
  | rendered {reference : Reference} {response : Response} {shown : Rendered}
      (hread : Reference.parse text = .ok reference)
      (hanswer : tag.resolver.client past (tag.resolver.rawUrl reference) = .ok response)
      (hstatus : response.isError = false)
      (hparams : (tag.fileWith reference response.body).params.toList.any isReserved = false)
      (hshown : tag.renderer.render (Text.trimmed (tag.fileWith reference response.body).params)
        response.body = shown) :
      Course tag past text
        ⟨.ok shown.html, [tag.resolver.rawUrl reference], shown.calls,
          [Resolver.fetchingEntry (tag.resolver.rawUrl reference) reference,
            renderingEntry reference] ++ shown.log⟩

/-- **Every run goes one of the five ways.** -/
theorem tryRender_course (tag : GistTag) (past : List String) (text : String) :
    Course tag past text (tag.tryRender past text) := by
  cases hread : Reference.parse text with
  | error error =>
    simp only [tryRender, hread]
    exact .unreadable hread
  | ok reference =>
    cases hanswer : tag.resolver.client past (tag.resolver.rawUrl reference) with
    | error error =>
      simp only [tryRender, hread, download, Resolver.resolve_of_error hanswer, fileOf]
      exact .unreached hread hanswer
    | ok response =>
      cases hstatus : response.isError with
      | true =>
        rw [tryRender_of_isError hread hanswer hstatus]
        exact .refused hread hanswer hstatus
      | false =>
        cases hparams : (tag.fileWith reference response.body).params.toList.any isReserved with
        | true =>
          simp only [tryRender, hread, download_of_not_isError hanswer hstatus]
          rw [renderFile_of_reserved hparams]
          exact .reserved hread hanswer hstatus hparams
        | false =>
          rw [tryRender_of_unreserved hread hanswer hstatus hparams]
          exact .rendered hread hanswer hstatus hparams rfl

/-- What a run that gives markup has done: the file arrived, was written as a
    directive and read again, and the directive was rendered. -/
theorem exists_directive_of_ok {html : String} (hread : Reference.parse text = .ok reference)
    (hok : (tag.tryRender past text).result = .ok html) :
    ∃ body directive,
      (tag.download past reference).result = .ok (tag.fileWith reference body) ∧
      (tag.fileWith reference body).toDirective = .ok directive ∧
      directive.params = Text.trimmed (tag.fileWith reference body).params ∧
      html = (directive.render tag.renderer).html ∧
      (tag.tryRender past text).calls = (directive.render tag.renderer).calls := by
  have hcourse := tryRender_course tag past text
  generalize tag.tryRender past text = run at hcourse hok ⊢
  cases hcourse with
  | unreadable hread' => cases hok
  | unreached hread' hanswer => cases hok
  | refused hread' hanswer hstatus => cases hok
  | reserved hread' hanswer hstatus hparams => cases hok
  | rendered hread' hanswer hstatus hfree hshown =>
    rw [hread] at hread'
    cases hread'
    obtain ⟨directive, hmade, hparams, hbody⟩ := exists_toDirective hfree
    refine ⟨_, directive, ?_, hmade, hparams, ?_, ?_⟩
    · rw [download_of_not_isError hanswer hstatus]
    · rw [Directive.render, hparams, hbody]
      cases hok
      exact congrArg Rendered.html hshown.symm
    · rw [Directive.render, hparams, hbody]
      exact congrArg Rendered.calls hshown.symm

/-! ### The detour -/

/-- **The detour through source text loses nothing.**  A file that arrives, and
    whose parameters a tag can hold, is rendered as the renderer renders its
    contents with these parameters, and with the same uses of the highlighter. -/
theorem tryRender_eq_render {tag : GistTag} {past : List String} {text params : String}
    {reference : Reference} {response : Response}
    (hread : Reference.parse text = .ok reference)
    (hanswer : tag.resolver.client past (tag.resolver.rawUrl reference) = .ok response)
    (hstatus : ¬ (400 ≤ response.status ∧ response.status ≤ 599))
    (hparams : params =
      match reference.filename with
      | some name => name ++ " " ++ tag.resolver.prettyUrl reference
      | none => tag.resolver.prettyUrl reference)
    (hfree : '\x7b' ∉ params.toList ∧ '%' ∉ params.toList ∧ '\x7d' ∉ params.toList) :
    (tag.tryRender past text).result =
        .ok (tag.renderer.render (Text.trimmed params) response.body).html ∧
      (tag.tryRender past text).calls =
        (tag.renderer.render (Text.trimmed params) response.body).calls ∧
      ∀ call ∈ (tag.tryRender past text).calls, call.code = response.body := by
  have hfile : params = (tag.fileWith reference response.body).params := hparams
  have hunreserved := Directive.any_isReserved_eq_false_iff.mpr hfree
  have hok : response.isError = false := by
    simpa [Response.isError] using hstatus
  rw [hfile] at hunreserved ⊢
  rw [tryRender_of_unreserved hread hanswer hok hunreserved]
  refine ⟨rfl, rfl, ?_⟩
  intro call hcall
  change call ∈ (tag.renderer.renderParsed response.body _).calls at hcall
  rw [Renderer.calls_renderParsed] at hcall
  exact Renderer.code_of_mem_uses _ _ _ hcall

/-- A tag whose host gives every request the same response, and whose highlighter
    leaves the code as it is. -/
def answering (response : Response) : GistTag where
  resolver := Resolver.forHost (fun _ _ => .ok response) Resolver.defaultBaseUrl
  renderer := { highlighter := fun code _ => .ok code }

/-- The file may end as a directive does. -/
theorem tryRender_eq_render_closeTag :
    let tag := answering ⟨200, "\n\x7b% endcodeblock %\x7d\n"⟩
    let direct := tag.renderer.render "a.rb https://gist.github.com/me/7"
      "\n\x7b% endcodeblock %\x7d\n"
    (tag.tryRender [] "me/7 a.rb").result = .ok direct.html ∧
      (tag.tryRender [] "me/7 a.rb").calls = direct.calls := by
  intro tag direct
  have hread : Reference.parse "me/7 a.rb" = .ok ⟨7, some "me", some "a.rb"⟩ := rfl
  have hanswer : tag.resolver.client [] (tag.resolver.rawUrl ⟨7, some "me", some "a.rb"⟩) =
      .ok ⟨200, "\n\x7b% endcodeblock %\x7d\n"⟩ := rfl
  have hparams : "a.rb https://gist.github.com/me/7" =
      "a.rb" ++ " " ++ tag.resolver.prettyUrl ⟨7, some "me", some "a.rb"⟩ := by decide
  obtain ⟨hhtml, hcalls, -⟩ := tryRender_eq_render hread hanswer (by decide) hparams (by decide)
  exact ⟨hhtml, hcalls⟩

end GistTag

end CodeFigure
