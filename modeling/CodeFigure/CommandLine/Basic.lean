/-
  CodeFigure/CommandLine/Basic.lean
  =================================
  **The commands, and the options that all of them share.**

  There are two commands: `codeblock` renders a body that is read from a file or
  from standard input, `gist` renders a gist.  The shared options may stand in
  front of the name of the command or behind it; when both places give one, the
  place behind the name wins.  The address of the gist host may also come from an
  environment variable, which any option outranks.
-/
import CodeFigure.CommandLine.Arguments
import CodeFigure.Config.Basic
import CodeFigure.Config.Expansion

namespace CodeFigure.CommandLine

/-! ### What is asked for -/

inductive Command where
  | codeblock (params : List String) (input : Option String)
  | gist (reference : List String) (strict : Bool)
deriving DecidableEq, Repr

structure SharedOptions where
  config : Option String
  verbose : Bool
  noHighlight : Bool
  baseUrl : Option String
deriving DecidableEq, Repr

structure Invocation where
  options : SharedOptions
  command : Command
deriving DecidableEq, Repr

def SharedOptions.overrides (options : SharedOptions) : Overrides where
  baseUrl := options.baseUrl
  highlight := if options.noHighlight then some false else none

/-! ### Options -/

def sharedSpecs : List OptionSpec :=
  [⟨"config", some 'c', true⟩, ⟨"verbose", some 'v', false⟩, ⟨"no-highlight", none, false⟩,
    ⟨"base-url", none, true⟩]

def codeblockSpecs : List OptionSpec := [⟨"input", some 'i', true⟩]

def gistSpecs : List OptionSpec := [⟨"strict", none, false⟩]

/-- The environment variable with the address of the gist host. -/
def baseUrlVariable : String := "OCTOBLOCK_GIST_BASE_URL"

/-! ### Commands -/

/-- How many positional values in a row make up a gist reference at most. -/
def maxReferenceRow : Nat := 2

def codeblockOf (arguments : List Argument) : Command :=
  .codeblock (positionals arguments) (valueOf? "input" arguments)

def gistOf (arguments : List Argument) : Command :=
  .gist (positionals arguments) (hasFlag "strict" arguments)

def readCodeblock (shared : List OptionSpec) (args : List String) :
    Except Stop (List Argument × Command) := do
  let specs := codeblockSpecs ++ shared
  let arguments ← checked specs ["input", "config"] (← readAll specs args)
  pure (arguments, codeblockOf arguments)

def readGist (shared : List OptionSpec) (args : List String) :
    Except Stop (List Argument × Command) := do
  let specs := gistSpecs ++ shared
  let arguments ← readAll specs args
  if maxReferenceRow < longestRow 0 arguments then throw .usage
  let arguments ← checked specs ["config"] arguments
  if (positionals arguments).isEmpty then throw .usage
  pure (arguments, gistOf arguments)

def codeblockAlone (args : List String) : Except Stop Command :=
  (readCodeblock [] args).map Prod.snd

def gistAlone (args : List String) : Except Stop Command := (readGist [] args).map Prod.snd

/-- The names that `help` explains. -/
def helpTopics : List String := ["codeblock", "gist", "help"]

/-- The command `help`: it never runs, but it has to make sense. -/
def readHelp : List String → Stop
  | [] => .help
  | [topic] => if helpTopics.contains topic then .help else .usage
  | _ => .usage

def readCommand : List String → Except Stop (List Argument × Command)
  | [] => .error .usage
  | name :: args =>
    if name = "codeblock" then readCodeblock sharedSpecs args
    else if name = "gist" then readGist sharedSpecs args
    else if name = "help" then .error (readHelp args)
    else .error .usage

/-! ### Command lines -/

/-- The shared options given in front of the name of the command and behind it,
    and the host that the environment names. -/
def sharedOptions (front behind : List Argument) (host : Option String) : SharedOptions where
  config := (valueOf? "config" behind).or (valueOf? "config" front)
  verbose := hasFlag "verbose" front || hasFlag "verbose" behind
  noHighlight := hasFlag "no-highlight" front || hasFlag "no-highlight" behind
  baseUrl := ((valueOf? "base-url" behind).or (valueOf? "base-url" front)).or host

def parse (environment : Environment) (args : List String) : Except Stop Invocation := do
  let (arguments, rest) ← readUpToCommand sharedSpecs args
  let front ← checked sharedSpecs ["config"] arguments
  let (behind, command) ← readCommand rest
  pure ⟨sharedOptions front behind (environment baseUrlVariable), command⟩

end CodeFigure.CommandLine
