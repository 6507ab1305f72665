/-
  CodeFigure/Proofs/CommandLine/Endings.lean
  ==========================================
  **Every command line ends as it is to, unless the client breaks it off.**

  A command line has markup to print or a failure, and never both
  (`not_fails_of_renders`).  Unless the client breaks off, it ends with the one that it has
  (`result_run`), and the exit code and both outputs are read off from that.  This holds
  whatever the command line is built with, so the markup is that of any grammars at all.

  The time limit is whatever the file says, as long as it is not zero.  A very long one
  reaches beyond what a clock with a last second can count, and then a gist is broken off
  in both modes, with nothing printed.
-/
import CodeFigure.CommandLine.Outcome
import CodeFigure.Proofs.Config.Provenance
import CodeFigure.Proofs.Gist.ErrorComment
import CodeFigure.Proofs.Gist.Session
import CodeFigure.Proofs.Text.Padding

namespace CodeFigure.CommandLine

open CodeFigure.Text

variable {tools : Tools} {host : Host} {options : SharedOptions} {command : Command}
  {invocation : Invocation} {config : Config} {reference : List String} {strict : Bool}

/-! ### Printed markup -/

theorem isPrinted_printed (html : String) : IsPrinted html (printed html) := by
  refine ⟨dropEndWhile (· == '\n') html.toList, (html.toList.reverse.takeWhile (· == '\n')).reverse,
    (dropEndWhile_append _ _).symm, ?_, ?_, ?_⟩
  · intro c hc
    exact eq_of_beq (List.all_eq_true.mp List.all_takeWhile c (List.mem_reverse.mp hc))
  · intro hlast
    have hnot := getLast?_dropEndWhile (· == '\n') html.toList '\n' hlast
    cases hnot
  · simp [printed]

/-! ### Exit codes -/

variable {ending : Ending}

theorem exitCode_of_ok {text : String} (hok : ending.result = .ok text) : ending.exitCode = 0 := by
  rw [Ending.exitCode, hok]

theorem stdout_of_ok {text : String} (hok : ending.result = .ok text) : ending.stdout = text := by
  rw [Ending.stdout, hok]

theorem stdout_of_error {failure : Failure} (herror : ending.result = .error failure) :
    ending.stdout = "" := by
  rw [Ending.stdout, herror]

theorem exitCode_of_error {failure : Failure} (herror : ending.result = .error failure)
    (hfailure : failure ≠ .clockOverrun) : ending.exitCode = 1 := by
  rw [Ending.exitCode, herror]
  cases failure with
  | clockOverrun => exact absurd rfl hfailure
  | _ => rfl

theorem stderr_of_error {failure : Failure} (herror : ending.result = .error failure) :
    ending.stderr false = "Error: " ++ failure.message ++ "\n" := by
  rw [Ending.stderr, herror]
  rfl

/-! ### Stages of a command line -/

theorem run_of_error {error : ConfigError}
    (hsettings : settingsOf host invocation.options = .error error) :
    run host invocation tools = ⟨.error (.config error), [], []⟩ := by
  rw [settingsOf] at hsettings
  rw [run, hsettings]

theorem run_of_ok (hsettings : settingsOf host invocation.options = .ok config) :
    run host invocation tools =
      { runCommand host config invocation.command tools with
        log := loadedLog config ++ (runCommand host config invocation.command tools).log } := by
  rw [settingsOf] at hsettings
  rw [run, hsettings]

theorem result_attemptGist_plain :
    (attemptGist tools host config reference false).result =
      .ok (printed ((tagOf tools host config).render [] (String.intercalate " " reference)).result) := by
  simp only [attemptGist, Bool.false_eq_true, if_false]

theorem result_attemptGist_strict :
    (attemptGist tools host config reference true).result =
      (((tagOf tools host config).tryRender [] (String.intercalate " " reference)).result.map
        printed).mapError .gist := by
  simp only [attemptGist, if_true]

/-- Both modes make the same requests. -/
theorem requests_attemptGist :
    (attemptGist tools host config reference strict).requests =
      (tagOf tools host config).addresses (.tryRender (String.intercalate " " reference)) := by
  cases strict with
  | false =>
    simp only [attemptGist, Bool.false_eq_true, if_false]
    rw [GistTag.requests_render, GistTag.requests_tryRender]
  | true =>
    simp only [attemptGist, if_true]
    rw [GistTag.requests_tryRender]

theorem calls_attemptGist :
    (attemptGist tools host config reference strict).calls =
      ((tagOf tools host config).tryRender [] (String.intercalate " " reference)).calls := by
  cases strict with
  | false =>
    simp only [attemptGist, Bool.false_eq_true, if_false]
    rw [GistTag.calls_render]
  | true => simp only [attemptGist, if_true]

/-! ### Breaking off -/

theorem any_breaksOff_iff :
    (attemptGist tools host config reference strict).requests.any
        (tools.breaksOff host.clock config.gist.timeout) = true ↔
      ∃ target, Reference.parse (String.intercalate " " reference) = .ok target ∧
        tools.breaksOff host.clock config.gist.timeout
          ((tagOf tools host config).resolver.rawUrl target) = true := by
  rw [requests_attemptGist, GistTag.addresses, GistTag.Use.reference?]
  cases Reference.parse (String.intercalate " " reference) with
  | error error => simp [Except.toOption]
  | ok target => simp [Except.toOption]

theorem breaksOff_gist_iff (hsettings : settingsOf host options = .ok config) :
    BreaksOff tools host ⟨options, .gist reference strict⟩ ↔
      (attemptGist tools host config reference strict).requests.any
        (tools.breaksOff host.clock config.gist.timeout) = true := by
  rw [any_breaksOff_iff]
  constructor
  · rintro ⟨_, _, _, target, hsettings', ⟨⟩, hread, hoff⟩
    cases hsettings.symm.trans hsettings'
    exact ⟨target, hread, hoff⟩
  · rintro ⟨target, hread, hoff⟩
    exact ⟨config, reference, strict, target, hsettings, rfl, hread, hoff⟩

theorem runGist_of_not_breaksOff (hsettings : settingsOf host options = .ok config)
    (hgoes : ¬ BreaksOff tools host ⟨options, .gist reference strict⟩) :
    (run host ⟨options, .gist reference strict⟩ tools).result =
      (attemptGist tools host config reference strict).result := by
  rw [breaksOff_gist_iff hsettings] at hgoes
  rw [run_of_ok hsettings, runCommand, runGist, if_neg hgoes]

theorem result_run_of_breaksOff (hbreaks : BreaksOff tools host invocation) :
    (run host invocation tools).result = .error .clockOverrun := by
  obtain ⟨options, command⟩ := invocation
  obtain ⟨config, reference, strict, -, hsettings, rfl, -⟩ := id hbreaks
  have hoff := (breaksOff_gist_iff hsettings).mp hbreaks
  rw [run_of_ok hsettings, runCommand, runGist, if_pos hoff]

/-- Where a client with a last second breaks off. -/
theorem Tools.CountsTo.breaksOff_command_iff {inOrder : String → Prop} {last : Nat}
    (hcounts : tools.CountsTo inOrder last) :
    BreaksOff tools host ⟨options, command⟩ ↔
      ∃ config reference strict target, settingsOf host options = .ok config ∧
        command = .gist reference strict ∧
        Reference.parse (String.intercalate " " reference) = .ok target ∧
        inOrder ((tagOf tools host config).resolver.rawUrl target) ∧
        last < host.clock + config.gist.timeout := by
  simp only [BreaksOff, hcounts.breaksOff_iff]

/-! ### Markup or a failure -/

theorem Fails.unique {failure other : Failure} (hfails : Fails tools host invocation failure)
    (hother : Fails tools host invocation other) : failure = other := by
  cases hfails with
  | config hsettings =>
    cases hother with
    | config hsettings' =>
      cases hsettings.symm.trans hsettings'
      rfl
    | body hsettings' => cases hsettings.symm.trans hsettings'
    | strictGist hsettings' => cases hsettings.symm.trans hsettings'
  | body hsettings hcommand hbody =>
    cases hother with
    | config hsettings' => cases hsettings.symm.trans hsettings'
    | body hsettings' hcommand' hbody' =>
      cases hcommand.symm.trans hcommand'
      cases hbody.symm.trans hbody'
      rfl
    | strictGist hsettings' hcommand' => cases hcommand.symm.trans hcommand'
  | strictGist hsettings hcommand herror =>
    cases hother with
    | config hsettings' => cases hsettings.symm.trans hsettings'
    | body hsettings' hcommand' => cases hcommand.symm.trans hcommand'
    | strictGist hsettings' hcommand' herror' =>
      cases hsettings.symm.trans hsettings'
      cases hcommand.symm.trans hcommand'
      cases herror.symm.trans herror'
      rfl

/-- What has markup to print does not fail. -/
theorem not_fails_of_renders {html : String}
    (hsettings : settingsOf host invocation.options = .ok config)
    (hrenders : Renders tools host config invocation.command html) (failure : Failure) :
    ¬ Fails tools host invocation failure := by
  intro hfails
  cases hfails with
  | config hsettings' => cases hsettings.symm.trans hsettings'
  | body hsettings' hcommand hbody =>
    rw [hcommand] at hrenders
    cases hrenders with
    | codeblock hbody' => cases hbody.symm.trans hbody'
  | strictGist hsettings' hcommand herror =>
    cases hsettings.symm.trans hsettings'
    rw [hcommand] at hrenders
    cases hrenders with
    | strictGist hhtml => cases herror.symm.trans hhtml

/-- **A command line ends in a failure or in printed markup.** -/
theorem result_run (hgoes : ¬ BreaksOff tools host invocation) :
    (∃ failure, Fails tools host invocation failure ∧ (run host invocation tools).result = .error failure) ∨
      ∃ config html, settingsOf host invocation.options = .ok config ∧
        Renders tools host config invocation.command html ∧
        (run host invocation tools).result = .ok (printed html) := by
  obtain ⟨options, command⟩ := invocation
  cases hsettings : settingsOf host options with
  | error error =>
    rw [run_of_error hsettings]
    exact .inl ⟨_, .config hsettings, rfl⟩
  | ok config =>
    cases command with
    | codeblock params input =>
      rw [run_of_ok hsettings, runCommand, runCodeblock]
      cases hbody : bodyOf host input with
      | error error => exact .inl ⟨_, .body hsettings rfl hbody, rfl⟩
      | ok body => exact .inr ⟨config, _, rfl, .codeblock hbody, rfl⟩
    | gist reference strict =>
      rw [runGist_of_not_breaksOff hsettings hgoes]
      cases strict with
      | false =>
        rw [result_attemptGist_plain]
        exact .inr ⟨config, _, rfl, .gist reference, rfl⟩
      | true =>
        rw [result_attemptGist_strict]
        cases hresult :
          ((tagOf tools host config).tryRender [] (String.intercalate " " reference)).result with
        | error error => exact .inl ⟨_, .strictGist hsettings rfl hresult, rfl⟩
        | ok html => exact .inr ⟨config, html, rfl, .strictGist hresult, rfl⟩

theorem Fails.ne_clockOverrun {failure : Failure} (hfails : Fails tools host invocation failure) :
    failure ≠ .clockOverrun := by
  rintro rfl
  cases hfails

theorem concludes_run (hgoes : ¬ BreaksOff tools host invocation) :
    Concludes tools host invocation (run host invocation tools) := by
  rcases result_run hgoes with ⟨failure, hfails, herror⟩ | ⟨config, html, hsettings, hrenders, hok⟩
  · have hexit := exitCode_of_error herror hfails.ne_clockOverrun
    refine ⟨.inr ⟨hexit, stdout_of_error herror⟩, iff_of_true hexit ⟨failure, hfails⟩, ?_⟩
    intro other hother
    rw [hother.unique hfails]
    exact stderr_of_error herror
  · have hexit := exitCode_of_ok hok
    have hnone := not_fails_of_renders hsettings hrenders
    refine ⟨.inl ⟨hexit, config, html, hsettings, hrenders, ?_⟩, ?_, ?_⟩
    · rw [stdout_of_ok hok]
      exact isPrinted_printed html
    · refine iff_of_false (by rw [hexit]; decide) ?_
      rintro ⟨failure, hfails⟩
      exact hnone failure hfails
    · intro failure hfails
      exact absurd hfails (hnone failure)

theorem exitCode_run_of_breaksOff (hbreaks : BreaksOff tools host invocation) :
    (run host invocation tools).exitCode = 101 := by
  rw [Ending.exitCode, result_run_of_breaksOff hbreaks]

theorem concludes_run_iff :
    Concludes tools host invocation (run host invocation tools) ↔ ¬ BreaksOff tools host invocation := by
  constructor
  · intro hconcludes hbreaks
    have hexit := exitCode_run_of_breaksOff hbreaks
    rcases hconcludes.output with ⟨hcode, -⟩ | ⟨hcode, -⟩
    · cases hcode.symm.trans hexit
    · cases hcode.symm.trans hexit
  · exact concludes_run

/-! ### Two modes -/

/-- The line feed at the end of a comment is the one that printing puts there. -/
theorem printed_of_lineEnd {html : String} {text : List Char}
    (hhtml : html.toList = text ++ "-->\n".toList) : printed html = html := by
  apply String.toList_inj.mp
  have hend : "-->\n".toList = "--".toList ++ ['>'] ++ ['\n'] := rfl
  rw [hend, ← List.append_assoc, ← List.append_assoc] at hhtml
  rw [printed, String.toList_append, String.toList_ofList, hhtml,
    dropEndWhile_append_of_forall _ (by simp), dropEndWhile_concat_of_not (by decide)]
  rfl

theorem modesAgree_run (hsettings : settingsOf host options = .ok config)
    (hgoes : ¬ BreaksOff tools host ⟨options, .gist reference false⟩) :
    ModesAgree (run host ⟨options, .gist reference false⟩ tools) (run host ⟨options, .gist reference true⟩ tools)
      ((tagOf tools host config).tryRender [] (String.intercalate " " reference)).result := by
  have hgoes' : ¬ BreaksOff tools host ⟨options, .gist reference true⟩ := by
    rw [breaksOff_gist_iff hsettings, any_breaksOff_iff] at hgoes ⊢
    exact hgoes
  have hplain := runGist_of_not_breaksOff hsettings hgoes
  have hstrict := runGist_of_not_breaksOff hsettings hgoes'
  rw [result_attemptGist_plain] at hplain
  rw [result_attemptGist_strict] at hstrict
  constructor
  · intro html hok
    rw [GistTag.render_of_ok hok] at hplain
    rw [hok] at hstrict
    refine ⟨exitCode_of_ok hplain, exitCode_of_ok hstrict, ?_⟩
    rw [stdout_of_ok hplain, stdout_of_ok hstrict]
  · intro error herror
    rw [herror] at hstrict
    exact ⟨exitCode_of_error hstrict nofun, stderr_of_error hstrict⟩
  · intro error herror
    obtain ⟨later, hfree, hcomment⟩ :=
      Comment.exists_toList_ofLines_cons error.message error.causes
    rw [GistTag.render_of_error herror, GistError.comment_eq_ofLines, printed_of_lineEnd hcomment]
      at hplain
    refine ⟨exitCode_of_ok hplain, _, later, Comment.disarmed_disarm _, hfree, ?_⟩
    rw [stdout_of_ok hplain, hcomment]

/-! ### Highlighting -/

theorem highlight_unique {files : FileSystem} {path : String} {written other : Config.Written}
    (hwritten : written.At files path) (hother : other.At files path) :
    written.highlight = other.highlight := by
  obtain ⟨source, table, hread, hparse, hin⟩ := hwritten
  obtain ⟨source', table', hread', hparse', hin'⟩ := hother
  cases hread.symm.trans hread'
  cases hparse.symm.trans hparse'
  have hsame := hin.highlight.symm.trans hin'.highlight
  exact (Option.map_inj_right (fun _ _ => Toml.Value.boolean.inj)).mp hsame

theorem highlight_of_highlightingOff (hoff : HighlightingOff host options)
    (hsettings : settingsOf host options = .ok config) : config.render.highlight = false := by
  rw [settingsOf, Config.load_eq_bind, Config.bind_eq_ok_iff] at hsettings
  obtain ⟨plain, hplain, hover⟩ := hsettings
  obtain ⟨-, rfl⟩ := Config.validate_eq_ok_iff.mp hover
  obtain ⟨huses, written, hwritten, -, hmerged⟩ := Config.merged_of_base hplain
  have hhighlight : plain.render.highlight = written.highlight.getD true := hmerged.highlight
  cases hoff with
  | option hoption => simp [Config.override, SharedOptions.overrides, hoption]
  | file huses' hwritten' hfile =>
    have hpath := huses.unique huses'
    rw [highlight_unique (hwritten _ hpath) hwritten', hfile] at hhighlight
    cases hoption : options.noHighlight with
    | true => simp [Config.override, SharedOptions.overrides, hoption]
    | false => simp [Config.override, SharedOptions.overrides, hoption, hhighlight]

theorem calls_run_of_highlightingOff (hoff : HighlightingOff host options) (command : Command) :
    (run host ⟨options, command⟩ tools).calls = [] := by
  cases hsettings : settingsOf host options with
  | error error => rw [run_of_error hsettings]
  | ok config =>
    have hhighlight := highlight_of_highlightingOff hoff hsettings
    rw [run_of_ok hsettings]
    cases command with
    | codeblock params input =>
      rw [runCommand, runCodeblock]
      cases bodyOf host input with
      | error error => rfl
      | ok body =>
        simp only [Renderer.render, Renderer.calls_renderParsed, Renderer.uses_eq_nil_iff]
        exact .inl hhighlight
    | gist reference strict =>
      rw [runCommand, runGist]
      simp only
      split
      · rfl
      · rw [calls_attemptGist]
        exact (GistTag.tryRender_course ..).calls_eq_nil hhighlight

/-! ### Every command line -/

/-- **How every command line ends**, whatever it is built with.  It ends as it is to
    exactly when the client does not break off; when it does, nothing is printed and the
    exit code is neither that of success nor that of failure.  The two modes of a gist
    agree, the parameters of a code block only matter as one text, and either switch keeps
    the highlighter from being used.  Where the client breaks off is known if its clock has
    a last second. -/
theorem run_concludes_iff (tools : Tools) (host : Host) (options : SharedOptions) :
    (∀ command, Concludes tools host ⟨options, command⟩ (run host ⟨options, command⟩ tools) ↔
      ¬ BreaksOff tools host ⟨options, command⟩) ∧
    (∀ command, BreaksOff tools host ⟨options, command⟩ →
      (run host ⟨options, command⟩ tools).exitCode = 101 ∧
        (run host ⟨options, command⟩ tools).stdout = "") ∧
    (∀ inOrder last, tools.CountsTo inOrder last → ∀ command,
      BreaksOff tools host ⟨options, command⟩ ↔
        ∃ config reference strict target, settingsOf host options = .ok config ∧
          command = .gist reference strict ∧
          Reference.parse (String.intercalate " " reference) = .ok target ∧
          inOrder ((tagOf tools host config).resolver.rawUrl target) ∧
          last < host.clock + config.gist.timeout) ∧
    (∀ config reference, settingsOf host options = .ok config →
      ¬ BreaksOff tools host ⟨options, .gist reference false⟩ →
      ModesAgree (run host ⟨options, .gist reference false⟩ tools)
        (run host ⟨options, .gist reference true⟩ tools)
        ((tagOf tools host config).tryRender [] (String.intercalate " " reference)).result) ∧
    (∀ params other input, String.intercalate " " params = String.intercalate " " other →
      run host ⟨options, .codeblock params input⟩ tools =
        run host ⟨options, .codeblock other input⟩ tools) ∧
    (HighlightingOff host options → ∀ command, (run host ⟨options, command⟩ tools).calls = []) := by
  refine ⟨fun command => concludes_run_iff, ?_, ?_, ?_, ?_, calls_run_of_highlightingOff⟩
  · intro command hbreaks
    exact ⟨exitCode_run_of_breaksOff hbreaks, stdout_of_error (result_run_of_breaksOff hbreaks)⟩
  · intro inOrder last hcounts command
    exact hcounts.breaksOff_command_iff
  · intro config reference hsettings hgoes
    exact modesAgree_run hsettings hgoes
  · intro params other input hsame
    simp only [run, runCommand, runCodeblock, hsame]

/-- A host at which every gist is refused, and no files. -/
def refusing : Host where
  surroundings := ⟨⟨fun _ => false, fun _ => .error .notFound⟩, none, environmentOf []⟩
  input := "x\n".toUTF8
  client := fun _ _ => .ok ⟨404, "-->"⟩
  clock := 0

/-- The defaults, without highlighting. -/
def unlit : Config := { render := { highlight := false } }

theorem settingsOf_refusing : settingsOf refusing ⟨none, false, true, none⟩ = .ok unlit := by
  have hvalid : unlit.validate = .ok unlit := Config.validate_eq_ok_self_iff.mpr (by decide)
  rw [settingsOf, Config.load_eq_bind, Config.bind_eq_ok_iff]
  exact ⟨{}, rfl, hvalid⟩

/-- Tools whose grammars put all code in italics. -/
def italic : Tools := ⟨fun code _ => .ok ("<i>" ++ code ++ "</i>"), Offline.breaksOff⟩

/-- What the host says is the failure in strict mode, and in a comment otherwise.  A code
    block is what the grammars make of standard input. -/
theorem run_concludes_iff_refused :
    let options : SharedOptions := ⟨none, false, true, none⟩
    let plain := run refusing ⟨options, .gist ["me/7"] false⟩ .offline
    let strict := run refusing ⟨options, .gist ["me/7"] true⟩ .offline
    let block : Invocation := ⟨⟨none, false, false, none⟩, .codeblock ["lang:rb"] none⟩
    Concludes .offline refusing ⟨options, .gist ["me/7"] true⟩ strict ∧
      strict.stderr false = "Error: I failed to download the gist at https://gist.github.com/me/7\n" ++
        "HttpResponse \x7b status: 404, body: \"-->\" \x7d\n" ∧
      plain.exitCode = 0 ∧ plain.calls = [] ∧
      plain.stdout = "<!--\nI failed to download the gist at https://gist.github.com/me/7\n" ++
        "HttpResponse \x7b status: 404, body: \"--&gt;\" \x7d\n-->\n" ∧
      Concludes italic refusing block (run refusing block italic) ∧
      (run refusing block italic).stdout = "<figure class='code'><div class='highlight'><pre>" ++
        "<code class='rb'><i>x\n</i></code></pre></div></figure>\n" := by
  intro options plain strict block
  obtain ⟨hconcludes, -, hcounts, hmodes, -, hcalls⟩ := run_concludes_iff .offline refusing options
  have hgoes : ∀ strict, ¬ BreaksOff .offline refusing ⟨options, .gist ["me/7"] strict⟩ := by
    intro strict
    rw [hcounts _ _ Tools.countsTo_offline]
    rintro ⟨config, -, -, -, hsettings, -, -, -, hlate⟩
    cases settingsOf_refusing.symm.trans hsettings
    revert hlate
    decide
  have hread : Reference.parse (String.intercalate " " ["me/7"]) = .ok ⟨7, some "me", none⟩ := rfl
  have hagree := hmodes _ ["me/7"] settingsOf_refusing (hgoes false)
  have hanswer : (tagOf .offline refusing unlit).resolver.client []
      ((tagOf .offline refusing unlit).resolver.rawUrl ⟨7, some "me", none⟩) = .ok ⟨404, "-->"⟩ := rfl
  have herror := congrArg Attempt.result (GistTag.tryRender_of_isError hread hanswer rfl)
  have hplain := runGist_of_not_breaksOff settingsOf_refusing (hgoes false)
  rw [result_attemptGist_plain, GistTag.render_of_error herror] at hplain
  refine ⟨(hconcludes _).mpr (hgoes true), ?_, (hagree.shown _ herror).1, hcalls (.option rfl) _,
    ?_, ?_, ?_⟩
  · rw [(hagree.reported _ herror).2]
    decide +kernel
  · rw [stdout_of_ok hplain]
    decide +kernel
  · obtain ⟨hblock, -⟩ := run_concludes_iff italic refusing block.options
    refine (hblock block.command).mpr ?_
    rintro ⟨-, -, -, -, -, ⟨⟩, -⟩
  · decide +kernel

/-- A host with a file that allows for the longest time limit there is. -/
def unhurried : Host where
  surroundings :=
    { files :=
        { has := fun path => path = "/octoblock.toml"
          read := fun path =>
            if path = "/octoblock.toml" then "gist.timeout_secs = 9223372036854775807".toUTF8
            else .error .notFound }
      directory := some []
      environment := environmentOf [] }
  input := "".toUTF8
  client := Offline.client
  clock := 1

/-- The settings of the file, with another address in them. -/
def endless : Config where
  gist := ⟨"http://127.0.0.1:1", 9223372036854775807⟩
  path := some "/octoblock.toml"

theorem settingsOf_unhurried :
    settingsOf unhurried ⟨none, false, false, some "http://127.0.0.1:1"⟩ = .ok endless := by
  have hfound : Config.discover? unhurried.surroundings = some "/octoblock.toml" := by decide
  have hdocument : Config.ofToml "gist.timeout_secs = 9223372036854775807" =
      .ok ⟨⟨Resolver.defaultBaseUrl, 9223372036854775807⟩, {}, none⟩ :=
    Config.eq_ok_of_toOption (by decide +kernel)
  have hexpand : Expansion.expand unhurried.surroundings.environment Resolver.defaultBaseUrl =
      .ok Resolver.defaultBaseUrl := rfl
  have htime : (9223372036854775807 : Nat) ≠ 0 := by omega
  exact Config.load_of_document hfound rfl hdocument hexpand (by decide) htime (by decide)

/-- **A time limit can be too long.**  With the longest one, a gist ends neither in a
    comment nor in a failure. -/
theorem not_concludes_run_unhurried :
    let invocation : Invocation :=
      ⟨⟨none, false, false, some "http://127.0.0.1:1"⟩, .gist ["1"] false⟩
    ¬ Concludes .offline unhurried invocation (run unhurried invocation .offline) ∧
      (run unhurried invocation .offline).exitCode = 101 ∧
      ∀ failure, ¬ Fails .offline unhurried invocation failure := by
  intro invocation
  have hsome : (Url.ofHttp
      ((tagOf .offline unhurried endless).resolver.rawUrl ⟨1, none, none⟩)).toOption.isSome = true := by
    decide +kernel
  obtain ⟨url, hurl⟩ := Option.isSome_iff_exists.mp hsome
  have hlate : Offline.lastSecond < unhurried.clock + endless.gist.timeout := by
    rw [Offline.lastSecond, unhurried, endless]
    simp
  have hbreaks : BreaksOff .offline unhurried invocation :=
    Tools.countsTo_offline.breaksOff_command_iff.mpr ⟨endless, ["1"], false, ⟨1, none, none⟩,
      settingsOf_unhurried, rfl, rfl, ⟨url, Config.eq_ok_of_toOption hurl⟩, hlate⟩
  refine ⟨?_, exitCode_run_of_breaksOff hbreaks, ?_⟩
  · rw [concludes_run_iff]
    exact not_not_intro hbreaks
  · have hrenders : Renders .offline unhurried endless invocation.command
        ((tagOf .offline unhurried endless).render [] (String.intercalate " " ["1"])).result :=
      .gist ["1"]
    exact not_fails_of_renders settingsOf_unhurried hrenders

end CodeFigure.CommandLine
