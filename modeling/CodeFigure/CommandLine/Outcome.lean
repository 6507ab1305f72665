/-
  CodeFigure/CommandLine/Outcome.lean
  ===================================
  **How a command line is to end.**

  This is described here without running the command.  Either there is markup to
  print (`Renders`), or there is a reason to fail (`Fails`): no settings, no body, or a
  gist that cannot be rendered where that is not allowed.  The exit code and both
  outputs follow from the one or the other (`Concludes`).

  There is a third way to end, which is neither: the client breaks a gist off
  (`BreaksOff`).  Where a client does that is its own affair.  One whose clock has a last
  second does it there (`Tools.CountsTo`), and the client without a network is such a one.
-/
import CodeFigure.CommandLine.Run
import CodeFigure.Config.Sources
import CodeFigure.Markup.Comment

namespace CodeFigure.CommandLine

def settingsOf (host : Host) (options : SharedOptions) : Except ConfigError Config :=
  Config.load host.surroundings options.config (some options.overrides)

/-! ### What a command is to print -/

/-- `out` is `html` without the line feeds at its end, and with one in their place. -/
def IsPrinted (html out : String) : Prop :=
  ∃ text breaks, html.toList = text ++ breaks ∧ (∀ c ∈ breaks, c = '\n') ∧
    text.getLast? ≠ some '\n' ∧ out.toList = text ++ ['\n']

inductive Renders (tools : Tools) (host : Host) (config : Config) : Command → String → Prop
  | codeblock {params : List String} {input : Option String} {body : String}
      (hbody : bodyOf host input = .ok body) :
      Renders tools host config (.codeblock params input)
        ((rendererOf tools config).render (String.intercalate " " params) body).html
  | gist (reference : List String) :
      Renders tools host config (.gist reference false)
        ((tagOf tools host config).render [] (String.intercalate " " reference)).result
  | strictGist {reference : List String} {html : String}
      (hhtml : ((tagOf tools host config).tryRender [] (String.intercalate " " reference)).result =
        .ok html) :
      Renders tools host config (.gist reference true) html

inductive Fails (tools : Tools) (host : Host) (invocation : Invocation) : Failure → Prop
  | config {error : ConfigError} (hsettings : settingsOf host invocation.options = .error error) :
      Fails tools host invocation (.config error)
  | body {config : Config} {params : List String} {input : Option String} {error : FileError}
      (hsettings : settingsOf host invocation.options = .ok config)
      (hcommand : invocation.command = .codeblock params input)
      (hbody : bodyOf host input = .error error) :
      Fails tools host invocation (.file error)
  | strictGist {config : Config} {reference : List String} {error : GistError}
      (hsettings : settingsOf host invocation.options = .ok config)
      (hcommand : invocation.command = .gist reference true)
      (herror : ((tagOf tools host config).tryRender [] (String.intercalate " " reference)).result =
        .error error) :
      Fails tools host invocation (.gist error)

/-- How a command line is to end. -/
structure Concludes (tools : Tools) (host : Host) (invocation : Invocation) (ending : Ending) :
    Prop where
  /-- Nothing is printed unless all of it is. -/
  output : (ending.exitCode = 0 ∧ ∃ config html, settingsOf host invocation.options = .ok config ∧
      Renders tools host config invocation.command html ∧ IsPrinted html ending.stdout) ∨
    (ending.exitCode = 1 ∧ ending.stdout = "")
  failed : ending.exitCode = 1 ↔ ∃ failure, Fails tools host invocation failure
  reported : ∀ failure, Fails tools host invocation failure →
    ending.stderr false = "Error: " ++ failure.message ++ "\n"

/-! ### Breaking off -/

/-- A gist is asked for at an address at which the client breaks off. -/
def BreaksOff (tools : Tools) (host : Host) (invocation : Invocation) : Prop :=
  ∃ config reference strict target, settingsOf host invocation.options = .ok config ∧
    invocation.command = .gist reference strict ∧
    Reference.parse (String.intercalate " " reference) = .ok target ∧
    tools.breaksOff host.clock config.gist.timeout
      ((tagOf tools host config).resolver.rawUrl target) = true

/-- The client breaks off where an address is in order, but the time for a request would
    not end before the last second of the clock. -/
structure Tools.CountsTo (tools : Tools) (inOrder : String → Prop) (last : Nat) : Prop where
  breaksOff_iff : ∀ clock limit url,
    tools.breaksOff clock limit url = true ↔ inOrder url ∧ last < clock + limit

theorem Tools.countsTo_offline :
    Tools.offline.CountsTo (fun address => ∃ url, Url.ofHttp address = .ok url)
      Offline.lastSecond := by
  constructor
  intro clock limit address
  simp only [Tools.offline, Offline.breaksOff, Bool.and_eq_true, decide_eq_true_eq]
  cases Url.ofHttp address with
  | error error => simp [Except.isOk, Except.toBool]
  | ok url => simp [Except.isOk, Except.toBool]

/-! ### Two modes, and two switches -/

/-- How a gist ends in plain mode and in strict mode, depending on what became of it. -/
structure ModesAgree (plain strict : Ending) (result : Except GistError String) : Prop where
  rendered : ∀ html, result = .ok html →
    plain.exitCode = 0 ∧ strict.exitCode = 0 ∧ plain.stdout = strict.stdout
  reported : ∀ error, result = .error error →
    strict.exitCode = 1 ∧ strict.stderr false = "Error: " ++ error.message ++ "\n"
  /-- In plain mode the error is in a comment, its own message first. -/
  shown : ∀ error, result = .error error →
    plain.exitCode = 0 ∧ ∃ message later, Markup.Disarmed error.message.toList message ∧
      ¬ "-->".toList <:+: message ++ '\n' :: later ∧
      plain.stdout.toList = "<!--\n".toList ++ (message ++ '\n' :: later) ++ "-->\n".toList

/-- Highlighting is switched off, on the command line or in the file in use. -/
inductive HighlightingOff (host : Host) (options : SharedOptions) : Prop
  | option (hoption : options.noHighlight = true)
  | file {path : String} {written : Config.Written}
      (huses : Config.Uses host.surroundings options.config (some path))
      (hwritten : written.At host.surroundings.files path)
      (hoff : written.highlight = some false)

end CodeFigure.CommandLine
