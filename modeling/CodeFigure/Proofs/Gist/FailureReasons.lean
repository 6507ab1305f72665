/-
  CodeFigure/Proofs/Gist/FailureReasons.lean
  ==========================================
  **What the reader is told about a gist that a host refuses.**

  The reason for the failure is two lines: where the gist is, and the response in full.
  The response may come from anyone, but it is shown with its body quoted, so nothing in it
  ends the line or goes unseen (`Response.isVisible_dump`), and another response is
  shown differently (`Response.dump_inj`).
-/
import CodeFigure.Proofs.Gist.Course
import CodeFigure.Proofs.Gist.Urls
import CodeFigure.Proofs.Text.Quoting

namespace CodeFigure

open CodeFigure.Text

/-! ### Dumps -/

namespace Response

/-- A field without the first character of the label behind it ends at this label. -/
theorem field_append_inj {label s t : String} {c : Char} {rest field field' : List Char}
    (hlabel : label.toList = c :: rest) (hfield : c ∉ field) (hfield' : c ∉ field')
    (hsame : String.ofList field ++ label ++ s = String.ofList field' ++ label ++ t) :
    field = field' ∧ s = t := by
  have hlists := congrArg String.toList hsame
  simp only [String.toList_append, String.toList_ofList, hlabel, List.append_assoc,
    List.cons_append] at hlists
  obtain ⟨hfields, hbehind⟩ := append_cons_inj hfield hfield' hlists
  exact ⟨hfields, String.toList_inj.mp (List.append_cancel_left hbehind)⟩

/-- **A dump tells the response.** -/
theorem dump_inj {response other : Response} (hsame : response.dump = other.dump) :
    response = other := by
  have hopened := (String.append_left_inj " \x7d").mp hsame
  rw [String.append_assoc, String.append_assoc, String.append_assoc, String.append_assoc] at hopened
  have hfields := (String.append_right_inj "HttpResponse \x7b status: ").mp hopened
  rw [← String.append_assoc, ← String.append_assoc] at hfields
  have hcomma (n : Nat) : ',' ∉ decimal n := not_mem_decimal (by decide) n
  have hlabel : ", body: ".toList = ',' :: " body: ".toList := by decide
  obtain ⟨hstatus, hbody⟩ := field_append_inj hlabel (hcomma _) (hcomma _) hfields
  exact Response.ext (decimal_inj hstatus) (quoted_inj hbody)

theorem isVisible_dump (response : Response) : IsVisible response.dump := by
  have hopening : IsVisible "HttpResponse \x7b status: " := List.all_eq_true.mp (by decide)
  have hlabel : IsVisible ", body: " := List.all_eq_true.mp (by decide)
  have hclosing : IsVisible " \x7d" := List.all_eq_true.mp (by decide)
  have hstatus := hopening.append (isVisible_decimal response.status)
  exact ((hstatus.append hlabel).append (isVisible_quoted response.body)).append hclosing

end Response

/-! ### Reasons -/

namespace Reference

/-- The address of a page has no line breaks but those of the base. -/
theorem not_ends_prettyUrl {text base : String} {reference : Reference} {ends : Char → Bool}
    (hread : parse text = .ok reference) (hends : EndsLines ends)
    (hbase : ∀ c ∈ base.toList, ends c = false) :
    ∀ c ∈ (reference.prettyUrl base).toList, ends c = false := by
  have howner : ∀ owner ∈ reference.owner, IsInkText owner.toList := fun owner howner =>
    ((isWritable_of_parse hread).owner owner howner).2.1
  intro c hc
  rw [prettyUrl, String.toList_append, List.mem_append, hostOf, String.toList_ofList] at hc
  rcases hc with hhost | hpath
  · exact hbase c (mem_of_mem_dropEndWhile hhost)
  · exact hends.of_ink (isInkText_prettyPath howner c hpath)

end Reference

namespace Resolver

/-- Stated for any lines: literal ones are slow to take apart. -/
theorem splitOnP_two_lines {ends : Char → Bool} (hends : EndsLines ends) {first second : String}
    (hfirst : ∀ c ∈ first.toList, ends c = false) (hsecond : ∀ c ∈ second.toList, ends c = false) :
    (first ++ "\n" ++ second).toList.splitOnP ends = [first.toList, second.toList] := by
  have hsplit : (first ++ "\n" ++ second).toList = first.toList ++ '\n' :: second.toList := by simp
  rw [hsplit, List.splitOnP_append_cons_of_forall_mem hfirst '\n' hends.lineFeed,
    List.splitOnP_eq_singleton hsecond]

theorem lines_failureReason {ends : Char → Bool} (hends : EndsLines ends) {page : String}
    (hpage : ∀ c ∈ page.toList, ends c = false) (response : Response) :
    (failureReason page response).toList.splitOnP ends =
      [("I failed to download the gist at " ++ page).toList, response.dump.toList] := by
  apply splitOnP_two_lines hends
  · have hlead : IsVisible "I failed to download the gist at " := List.all_eq_true.mp (by decide)
    intro c hc
    rw [String.toList_append, List.mem_append] at hc
    rcases hc with hlead' | hinside
    · exact hends.of_isPrintable (hlead c hlead')
    · exact hpage c hinside
  · intro c hc
    exact hends.of_isPrintable (response.isVisible_dump c hc)

theorem failureReason_eq_iff {page : String} {response other : Response} :
    failureReason page response = failureReason page other ↔ response = other := by
  constructor
  · intro hsame
    exact Response.dump_inj ((String.append_right_inj _).mp hsame)
  · exact congrArg (failureReason page)

/-- A gist whose host answers with the response fails, and this is the reason. -/
def FailsFor (base : String) (reference : Reference) (response : Response) (reason : String) :
    Prop :=
  ∀ (client : Client) (past : List String), client past (reference.rawUrl base) = .ok response →
    ((forHost client base).resolve past reference).outcome =
      .ok (.failure reason (reference.rawUrl base))

theorem failsFor_iff {base reason : String} {reference : Reference} {response : Response} :
    FailsFor base reference response reason ↔
      response.isError = true ∧ reason = failureReason (reference.prettyUrl base) response := by
  constructor
  · intro hfails
    have houtcome := hfails (fun _ _ => .ok response) [] rfl
    cases hstatus : response.isError with
    | false =>
      rw [resolve_of_not_isError rfl hstatus] at houtcome
      exact absurd (Except.ok.inj houtcome) Outcome.noConfusion
    | true =>
      rw [resolve_of_isError rfl hstatus, prettyUrl_forHost] at houtcome
      exact ⟨rfl, (Outcome.failure.inj (Except.ok.inj houtcome)).1.symm⟩
  · rintro ⟨hstatus, rfl⟩ client past hanswer
    rw [← rawUrl_forHost client] at hanswer ⊢
    rw [resolve_of_isError hanswer hstatus, prettyUrl_forHost]

/-- **A refusal is explained on two lines, and in full.**  Whichever line breaks a reader knows,
    if the base has none of them then the reason is the line with the page of the gist and the
    line with the response, which has no line break and no control character whatever the body
    holds.  For one gist, another response has another reason. -/
theorem resolve_explains_failure (base : String) (reference : Reference) :
    (∀ (text : String) (ends : Char → Bool) (response : Response),
      Reference.parse text = .ok reference → EndsLines ends →
      (∀ c ∈ base.toList, ends c = false) → 400 ≤ response.status → response.status ≤ 599 →
        ∃ reason, FailsFor base reference response reason ∧
          reason.toList.splitOnP ends =
            [("I failed to download the gist at " ++ reference.prettyUrl base).toList,
              response.dump.toList] ∧
          ∀ c ∈ response.dump.toList, isLineBreak c = false ∧ isControl c = false) ∧
    ∀ (response other : Response) (reason otherReason : String),
      FailsFor base reference response reason → FailsFor base reference other otherReason →
        (reason = otherReason ↔ response.status = other.status ∧ response.body = other.body) := by
  constructor
  · intro text ends response hread hends hbase hlow hhigh
    have hstatus := Response.isError_eq_true_iff.mpr ⟨hlow, hhigh⟩
    have hpage := Reference.not_ends_prettyUrl hread hends hbase
    refine ⟨_, failsFor_iff.mpr ⟨hstatus, rfl⟩, lines_failureReason hends hpage response, ?_⟩
    intro c hc
    have hprints := response.isVisible_dump c hc
    exact ⟨isLineBreak_of_isPrintable hprints, isControl_of_isPrintable hprints⟩
  · intro response other reason otherReason hfails hfails'
    obtain ⟨-, rfl⟩ := failsFor_iff.mp hfails
    obtain ⟨-, rfl⟩ := failsFor_iff.mp hfails'
    exact failureReason_eq_iff.trans Response.ext_iff

/-- A NUL in front of a digit and a line feed are told from the text of their escapes. -/
theorem resolve_explains_failure_escapes :
    let reference : Reference := ⟨1, some "o", some "a.rb"⟩
    let raw := "I failed to download the gist at http://h/o/1\nHttpResponse " ++
      "\x7b status: 500, body: \"\\01\\n\" \x7d"
    let written := "I failed to download the gist at http://h/o/1\nHttpResponse " ++
      "\x7b status: 500, body: \"\\\\01\\\\n\" \x7d"
    Reference.parse "o/1 a.rb" = .ok reference ∧
      FailsFor "http://h/" reference ⟨500, "\x001\n"⟩ raw ∧
      FailsFor "http://h/" reference ⟨500, "\\01\\n"⟩ written ∧
      raw ≠ written ∧ (raw.toList.splitOnP isLineBreak).length = 2 := by
  intro reference raw written
  have hread : Reference.parse "o/1 a.rb" = .ok reference := rfl
  have hbase : "http://h/".toList.all (fun c => !isLineBreak c) = true := by decide
  have hends : EndsLines isLineBreak := ⟨by decide, fun _ hc => hc⟩
  have hraw : FailsFor "http://h/" reference ⟨500, "\x001\n"⟩ raw :=
    failsFor_iff.mpr ⟨by decide, by decide +kernel⟩
  have hwritten : FailsFor "http://h/" reference ⟨500, "\\01\\n"⟩ written :=
    failsFor_iff.mpr ⟨by decide, by decide +kernel⟩
  have hfree : ∀ c ∈ "http://h/".toList, isLineBreak c = false := fun c hc => by
    simpa using List.all_eq_true.mp hbase c hc
  obtain ⟨hlines, htells⟩ := resolve_explains_failure "http://h/" reference
  refine ⟨hread, hraw, hwritten, ?_, ?_⟩
  · intro hsame
    have hbodies := ((htells _ _ _ _ hraw hwritten).mp hsame).2
    exact absurd hbodies (by decide)
  · obtain ⟨reason, hfails, htwo, -⟩ :=
      hlines _ _ ⟨500, "\x001\n"⟩ hread hends hfree (by decide) (by decide)
    have hreason := (htells _ _ _ _ hfails hraw).mpr ⟨rfl, rfl⟩
    rw [← hreason, htwo]
    rfl

end Resolver

end CodeFigure
