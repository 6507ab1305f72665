/-
  CodeFigure/Config/Load.lean
  ===========================
  **Where settings come from, and which of them win.**

  The file is the one that is asked for, or else the nearest one: the
  configuration file of the current directory, or of its closest ancestor that
  has one.  Without any file the defaults hold.

  A file goes through stages, and the first that fails is the error: reading,
  TOML, environment variables (the address, then the markup before and behind
  figures), validity.  The overrides of the command line come after all of that
  and have to be valid themselves, so they neither rescue a broken file nor are
  rescued by a good one.
-/
import CodeFigure.Config.Decode
import CodeFigure.Config.Expansion
import CodeFigure.Files.Tree

namespace CodeFigure

/-- What settings depend on outside of the library. -/
structure Surroundings where
  files : FileSystem
  /-- The current directory, unless there is none. -/
  directory : Option Path
  environment : Environment

namespace Config

/-! ### Finding the file -/

def fileName : String := "octoblock.toml"

def pathText (path : Path) : String := "/" ++ String.intercalate "/" path

/-- A directory and those above it, up to the root. -/
def ancestors (directory : Path) : List Path :=
  (List.range (directory.length + 1)).map fun up => directory.take (directory.length - up)

/-- The places where the file may be, nearest first. -/
def candidates (directory : Path) : List String :=
  (ancestors directory).map fun place => pathText (place ++ [fileName])

def discover? (surroundings : Surroundings) : Option String :=
  surroundings.directory.bind fun directory =>
    (candidates directory).find? surroundings.files.has

/-! ### Stages -/

def expandField (environment : Environment) (field : ExpandedField) (value : String) :
    Except ConfigError String :=
  match Expansion.expand environment value with
  | .ok expanded => .ok expanded
  | .error name => .error (.unsetVariable field name)

def expandOptional (environment : Environment) (field : ExpandedField) :
    Option String → Except ConfigError (Option String)
  | none => .ok none
  | some value =>
    match expandField environment field value with
    | .ok expanded => .ok (some expanded)
    | .error error => .error error

def expandAll (environment : Environment) (config : Config) : Except ConfigError Config := do
  let baseUrl ← expandField environment .baseUrl config.gist.baseUrl
  let before ← expandOptional environment .before config.render.before
  let after ← expandOptional environment .after config.render.after
  pure ⟨{ config.gist with baseUrl }, { config.render with before, after }, config.path⟩

def ofText (environment : Environment) (path source : String) : Except ConfigError Config := do
  let written ← (ofToml source).mapError .parse
  let expanded ← expandAll environment written
  validate { expanded with path := some path }

def variableNames (source : String) : List String :=
  match ofToml source with
  | .error _ => []
  | .ok config =>
    Expansion.names config.gist.baseUrl
      ++ Expansion.names (config.render.before.getD "")
      ++ Expansion.names (config.render.after.getD "")

def ofFile (surroundings : Surroundings) (path : String) : Except ConfigError Config := do
  let source ← (surroundings.files.readText path).mapError .file
  ofText surroundings.environment path source

def base (surroundings : Surroundings) : Option String → Except ConfigError Config
  | some path =>
    if surroundings.files.has path then ofFile surroundings path else .error (.notFound path)
  | none =>
    match discover? surroundings with
    | some path => ofFile surroundings path
    | none => .ok {}

/-- The settings: those of the file asked for, or of the nearest one, with the
    overrides in place. -/
def load (surroundings : Surroundings) (path : Option String) (overrides : Option Overrides) :
    Except ConfigError Config := do
  let config ← base surroundings path
  match overrides with
  | none => pure config
  | some overrides => (config.override overrides).validate

end Config

end CodeFigure
