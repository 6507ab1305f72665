/-
  CodeFigure/Proofs/Gist/Session.lean
  ===================================
  **Every rendering on a tag is settled by the reference and one answer.**

  How rendering ends is settled by whether the text is a reference, what the host
  answers to its raw address, and whether the name and the page can stand in a tag
  (`Settled`).  Two ways to fail do not occur: a directive that has been written
  lacks neither of its tags.  The highlighter is used only where there is markup in
  the end.

  A tag may be used any number of times, and a host may answer each time
  differently: what it says depends on the requests made so far (`history`).  A use
  makes the one request that its reference names, or none when it names nothing
  (`requests_eq_addresses`), so the history of a session can be told from its uses
  alone (`history_eq`), and the rendering that comes next is settled like the first.
-/
import CodeFigure.Proofs.Gist.Course

namespace CodeFigure.GistTag

variable {tag : GistTag} {past : List String} {text : String} {reference : Reference}

/-! ### What settles a rendering -/

/-- The name of the file, or the address of its page, holds a reserved character. -/
def HasReserved (tag : GistTag) (reference : Reference) : Prop :=
  (∃ name ∈ reference.filename, ∃ c ∈ name.toList, isReserved c = true) ∨
    ∃ c ∈ (tag.resolver.prettyUrl reference).toList, isReserved c = true

/-- How rendering a reference ends, and what has been asked by then. -/
structure Answered (tag : GistTag) (past : List String) (reference : Reference)
    (attempt : Attempt (Except GistError String)) : Prop where
  requests : attempt.requests = [tag.resolver.rawUrl reference]
  transport : ∀ error, attempt.result = .error (.transport error) ↔
    tag.resolver.client past (tag.resolver.rawUrl reference) = .error error
  remote : ∀ reason attempted, attempt.result = .error (.remote reason attempted) ↔
    ∃ response, tag.resolver.client past (tag.resolver.rawUrl reference) = .ok response ∧
      (400 ≤ response.status ∧ response.status ≤ 599) ∧
      reason = Resolver.failureReason (tag.resolver.prettyUrl reference) response ∧
      attempted = tag.resolver.rawUrl reference
  directive : ∀ error, attempt.result = .error (.directive error) ↔
    ∃ response, tag.resolver.client past (tag.resolver.rawUrl reference) = .ok response ∧
      ¬ (400 ≤ response.status ∧ response.status ≤ 599) ∧ tag.HasReserved reference ∧
      error = .forbiddenCharacters (tag.fileWith reference response.body).params
  rendered : (∃ html, attempt.result = .ok html) ↔
    ∃ response, tag.resolver.client past (tag.resolver.rawUrl reference) = .ok response ∧
      ¬ (400 ≤ response.status ∧ response.status ≤ 599) ∧ ¬ tag.HasReserved reference

/-- How rendering a text ends, and what has been asked and used by then. -/
structure Settled (tag : GistTag) (past : List String) (text : String)
    (attempt : Attempt (Except GistError String)) : Prop where
  reference : ∀ error, attempt.result = .error (.reference error) ↔ Reference.parse text = .error error
  /-- What is no reference is not asked for. -/
  idle : ∀ error, Reference.parse text = .error error → attempt.requests = [] ∧ attempt.calls = []
  answered : ∀ reference, Reference.parse text = .ok reference → tag.Answered past reference attempt
  missingOpen : attempt.result ≠ .error (.directive .missingOpen)
  missingClose : attempt.result ≠ .error (.directive .missingClose)
  calls : attempt.calls.length ≤ 1
  callsOk : attempt.calls ≠ [] → ∃ html, attempt.result = .ok html

theorem any_isReserved_params_iff (body : String) :
    (tag.fileWith reference body).params.toList.any isReserved = true ↔ tag.HasReserved reference := by
  unfold HasReserved GistFile.params fileWith
  cases reference.filename with
  | none => simp [List.any_eq_true]
  | some name =>
    have hspace : " ".toList.any isReserved = false := by decide
    simp only [String.toList_append, List.any_append, hspace, Bool.or_false, Bool.or_eq_true,
      List.any_eq_true, Option.mem_def, Option.some.injEq, exists_eq_left']

variable {attempt : Attempt (Except GistError String)}

/-- Each way that a run can go rules out the ends of the others. -/
theorem Course.answered (hcourse : tag.Course past text attempt)
    (hread : Reference.parse text = .ok reference) : tag.Answered past reference attempt := by
  cases hcourse with
  | unreadable hread' => cases hread.symm.trans hread'
  | unreached hread' hanswer =>
    cases hread.symm.trans hread'
    exact {
      requests := rfl
      transport := by simp [hanswer]
      remote := by simp [hanswer]
      directive := by simp [hanswer]
      rendered := by simp [hanswer] }
  | refused hread' hanswer hstatus =>
    cases hread.symm.trans hread'
    rw [Response.isError_eq_true_iff] at hstatus
    exact {
      requests := rfl
      transport := by simp [hanswer]
      remote := by simp [hanswer, hstatus, eq_comm]
      directive := by simp [hanswer, hstatus, -not_and]
      rendered := by simp [hanswer, hstatus, -not_and] }
  | reserved hread' hanswer hstatus hparams =>
    cases hread.symm.trans hread'
    rw [Bool.eq_false_iff, ne_eq, Response.isError_eq_true_iff] at hstatus
    rw [any_isReserved_params_iff] at hparams
    exact {
      requests := rfl
      transport := by simp [hanswer]
      remote := by simp [hanswer, hstatus]
      directive := by simp [hanswer, hstatus, hparams, eq_comm, -not_and]
      rendered := by simp [hanswer, hparams] }
  | rendered hread' hanswer hstatus hparams hshown =>
    cases hread.symm.trans hread'
    rw [Bool.eq_false_iff, ne_eq, Response.isError_eq_true_iff] at hstatus
    rw [Bool.eq_false_iff, ne_eq, any_isReserved_params_iff] at hparams
    exact {
      requests := rfl
      transport := by simp [hanswer]
      remote := by simp [hanswer, hstatus]
      directive := by simp [hanswer, hparams]
      rendered := by simp [hanswer, hstatus, hparams, -not_and] }

theorem Course.length_calls_le (hcourse : tag.Course past text attempt) : attempt.calls.length ≤ 1 := by
  cases hcourse with
  | rendered hread hanswer hstatus hparams hshown =>
    rw [← hshown, Renderer.render, Renderer.calls_renderParsed]
    exact Renderer.length_uses_le ..
  | _ => exact Nat.zero_le 1

theorem Course.calls_eq_nil (hcourse : tag.Course past text attempt)
    (hoff : tag.renderer.highlighting = false) : attempt.calls = [] := by
  cases hcourse with
  | rendered hread hanswer hstatus hparams hshown =>
    rw [← hshown, Renderer.render, Renderer.calls_renderParsed, Renderer.uses_eq_nil_iff]
    exact .inl hoff
  | _ => rfl

theorem Course.settled (hcourse : tag.Course past text attempt) : tag.Settled past text attempt where
  reference error := by cases hcourse <;> simp [*]
  idle error hread := by cases hcourse <;> simp_all
  answered reference hread := hcourse.answered hread
  missingOpen := by cases hcourse <;> simp
  missingClose := by cases hcourse <;> simp
  calls := hcourse.length_calls_le
  callsOk := by cases hcourse <;> simp

/-! ### Sessions -/

inductive Use where
  | render (text : String)
  | tryRender (text : String)
  | download (reference : Reference)

def requests (tag : GistTag) (past : List String) : Use → List String
  | .render text => (tag.render past text).requests
  | .tryRender text => (tag.tryRender past text).requests
  | .download reference => (tag.download past reference).requests

/-- All requests made when the uses have followed each other, after those in
    `past`. -/
def history (tag : GistTag) (past : List String) : List Use → List String
  | [] => past
  | use :: uses => tag.history (past ++ tag.requests past use) uses

def Use.reference? : Use → Option Reference
  | .render text | .tryRender text => (Reference.parse text).toOption
  | .download reference => some reference

def addresses (tag : GistTag) (use : Use) : List String :=
  (use.reference?.map tag.resolver.rawUrl).toList

theorem requests_tryRender (tag : GistTag) (past : List String) (text : String) :
    (tag.tryRender past text).requests = tag.addresses (.tryRender text) := by
  have hsettled := (tryRender_course tag past text).settled
  simp only [addresses, Use.reference?]
  cases hread : Reference.parse text with
  | error error => exact (hsettled.idle error hread).1
  | ok reference => exact (hsettled.answered reference hread).requests

theorem requests_render (tag : GistTag) (past : List String) (text : String) :
    (tag.render past text).requests = (tag.tryRender past text).requests := by
  unfold render
  simp only
  cases (tag.tryRender past text).result with
  | error error => rfl
  | ok html => rfl

theorem calls_render (tag : GistTag) (past : List String) (text : String) :
    (tag.render past text).calls = (tag.tryRender past text).calls := by
  unfold render
  simp only
  cases (tag.tryRender past text).result with
  | error error => rfl
  | ok html => rfl

/-- A use makes one request, to the address that its reference names. -/
theorem requests_eq_addresses (tag : GistTag) (past : List String) (use : Use) :
    tag.requests past use = tag.addresses use := by
  cases use with
  | render text => exact (requests_render tag past text).trans (requests_tryRender tag past text)
  | tryRender text => exact requests_tryRender tag past text
  | download reference => exact tag.resolver.requests_resolve past reference

/-- **A session makes the requests that its uses name, in their order.** -/
theorem history_eq (tag : GistTag) (past : List String) (uses : List Use) :
    tag.history past uses = past ++ uses.flatMap tag.addresses := by
  induction uses generalizing past with
  | nil => simp [history]
  | cons use uses ih =>
    rw [history, ih, requests_eq_addresses, List.flatMap_cons, List.append_assoc]

/-- **Every rendering is settled.**  Whatever a tag has been used for, the next
    rendering ends as the text, the host's answer to this one request and the
    reserved characters say, and the uses before it have made one request for each
    reference that they name. -/
theorem tryRender_settled (tag : GistTag) (past : List String) (uses : List Use) (text : String) :
    tag.Settled (tag.history past uses) text (tag.tryRender (tag.history past uses) text) ∧
      tag.history past uses = past ++ uses.flatMap tag.addresses :=
  ⟨(tryRender_course tag _ text).settled, history_eq tag past uses⟩

/-- A tag whose host is out of reach at first and answers from then on. -/
def recovering : GistTag where
  resolver := Resolver.forHost
    (fun past _ => if past = [] then .error ⟨"timed out", none⟩ else .ok ⟨200, "x"⟩)
    Resolver.defaultBaseUrl
  renderer := { highlighter := fun code _ => .ok code }

/-- The same text may fail and then be rendered. -/
theorem tryRender_settled_retry :
    (recovering.tryRender [] "7").result = .error (.transport ⟨"timed out", none⟩) ∧
      ∃ html, (recovering.tryRender (recovering.history [] [.tryRender "7"]) "7").result =
        .ok html := by
  have hread : Reference.parse "7" = .ok ⟨7, none, none⟩ := rfl
  obtain ⟨hfirst, -⟩ := tryRender_settled recovering [] [] "7"
  obtain ⟨hnext, hhistory⟩ := tryRender_settled recovering [] [.tryRender "7"] "7"
  refine ⟨((hfirst.answered _ hread).transport _).mpr rfl, ?_⟩
  refine (hnext.answered _ hread).rendered.mpr ⟨⟨200, "x"⟩, ?_, by decide, ?_⟩
  · rw [hhistory]
    rfl
  · rw [← any_isReserved_params_iff "x"]
    decide

end CodeFigure.GistTag
