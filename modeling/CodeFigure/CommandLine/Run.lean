/-
  CodeFigure/CommandLine/Run.lean
  ===============================
  **What a command line does.**

  Running a command is a function of what it finds around it: files, the current
  directory, environment variables, standard input, the clock and the way to gist
  hosts.  It ends in one of two ways.  Either it prints markup, without the line
  feeds at its end and with one in their place, or it fails and prints nothing.

  A gist that cannot be rendered is a failure only in strict mode; otherwise the
  comment that stands for it is the markup.

  Two things are not up to the command line but to what it is built with (`Tools`): the
  grammars of the highlighter, and whether the client breaks off where it is to say how
  long a request may take.  When it breaks off, so does the command, in both modes.
-/
import CodeFigure.CommandLine.Basic
import CodeFigure.Config.Load
import CodeFigure.Gist.Offline
import CodeFigure.Gist.Tag
import CodeFigure.Highlight.Bundled

namespace CodeFigure.CommandLine

open CodeFigure.Text

/-- What a command depends on outside of the library. -/
structure Host where
  surroundings : Surroundings
  /-- All of standard input, unless it cannot be read. -/
  input : Reading
  client : Client
  /-- What the clock shows, in seconds. -/
  clock : Nat

/-- What the command line is built with. -/
structure Tools where
  grammars : Bundled.Grammars
  /-- With the clock at so many seconds and so many seconds for a request, the client breaks
      off before it asks for the address. -/
  breaksOff : Nat → Nat → String → Bool

/-- The tools that need no network and no grammar files. -/
def Tools.offline : Tools := ⟨Bundled.plainGrammar, Offline.breaksOff⟩

inductive Failure where
  | config (error : ConfigError)
  | file (error : FileError)
  | gist (error : GistError)
  | clockOverrun
deriving DecidableEq, Repr

def Failure.message : Failure → String
  | .config error => error.message
  | .file error => error.message
  | .gist error => error.message
  | .clockOverrun => "overflow when adding duration to instant"

/-- How a command ended: with something to print, or with a failure; and what
    happened on the way. -/
structure Ending where
  result : Except Failure String
  /-- The uses of the highlighter, in order. -/
  calls : List HighlightCall
  /-- What was reported, in order. -/
  log : List LogEntry

/-! ### Commands -/

def printed (html : String) : String :=
  String.ofList (dropEndWhile (· == '\n') html.toList) ++ "\n"

def rendererOf (tools : Tools) (config : Config) : Renderer :=
  ⟨Bundled.highlightBy tools.grammars, ⟨config.render.before, config.render.after⟩,
    config.render.highlight⟩

def readingEntry (path : String) : LogEntry where
  level := .info
  message := "Reading codeblock body"
  fields := [("path", path)]

/-- The body of a code block, from a file or from standard input. -/
def bodyOf (host : Host) : Option String → Except FileError String
  | some path => host.surroundings.files.readText path
  | none => host.input.bind decodeText

def bodyLog : Option String → List LogEntry
  | some path => [readingEntry path]
  | none => []

def runCodeblock (tools : Tools) (host : Host) (config : Config) (params : List String)
    (input : Option String) : Ending :=
  match bodyOf host input with
  | .error error => ⟨.error (.file error), [], bodyLog input⟩
  | .ok body =>
    let rendered := (rendererOf tools config).render (String.intercalate " " params) body
    ⟨.ok (printed rendered.html), rendered.calls, bodyLog input ++ rendered.log⟩

def tagOf (tools : Tools) (host : Host) (config : Config) : GistTag :=
  ⟨Resolver.forHost host.client config.gist.baseUrl, rendererOf tools config⟩

/-- Render a gist with a client that does not break off. -/
def attemptGist (tools : Tools) (host : Host) (config : Config) (reference : List String)
    (strict : Bool) : Attempt (Except Failure String) :=
  let text := String.intercalate " " reference
  if strict then
    let attempt := (tagOf tools host config).tryRender [] text
    { attempt with result := (attempt.result.map printed).mapError .gist }
  else
    let attempt := (tagOf tools host config).render [] text
    { attempt with result := .ok (printed attempt.result) }

def runGist (tools : Tools) (host : Host) (config : Config) (reference : List String)
    (strict : Bool) : Ending :=
  let attempt := attemptGist tools host config reference strict
  if attempt.requests.any (tools.breaksOff host.clock config.gist.timeout) then
    ⟨.error .clockOverrun, [], []⟩
  else ⟨attempt.result, attempt.calls, attempt.log⟩

def runCommand (host : Host) (config : Config) (command : Command)
    (tools : Tools := .offline) : Ending :=
  match command with
  | .codeblock params input => runCodeblock tools host config params input
  | .gist reference strict => runGist tools host config reference strict

/-! ### Command lines -/

def loadedEntry (path : String) : LogEntry where
  level := .info
  message := "Loaded configuration"
  fields := [("path", path)]

def loadedLog (config : Config) : List LogEntry :=
  match config.path with
  | some path => [loadedEntry path]
  | none => []

/-- Load the settings and carry out the command. -/
def run (host : Host) (invocation : Invocation) (tools : Tools := .offline) : Ending :=
  match Config.load host.surroundings invocation.options.config
      (some invocation.options.overrides) with
  | .error error => ⟨.error (.config error), [], []⟩
  | .ok config =>
    let ending := runCommand host config invocation.command tools
    { ending with log := loadedLog config ++ ending.log }

def versionLine : String := "octoblock 0.1.0\n"

def Ending.exitCode (ending : Ending) : Nat :=
  match ending.result with
  | .ok _ => 0
  | .error .clockOverrun => 101
  | .error _ => 1

def Ending.stdout (ending : Ending) : String :=
  match ending.result with
  | .ok text => text
  | .error _ => ""

/-- The environment asks for colours, wherever they go. -/
def forcesColor (environment : Environment) : Bool :=
  match environment "CLICOLOR_FORCE" with
  | some wish => wish != "0"
  | none => false

def inRed (message : String) : String := "\x1B[31m" ++ message ++ "\x1B[0m"

/-- What is written to standard error, reports aside. -/
def Ending.stderr (colored : Bool) (ending : Ending) : String :=
  match ending.result with
  | .ok _ => ""
  | .error failure =>
    let message := "Error: " ++ failure.message
    (if colored then inRed message else message) ++ "\n"

end CodeFigure.CommandLine
