/-
  CodeFigure/Config/Sources.lean
  ==============================
  **Where settings come from, and where loading them can stop.**

  Loading is described here from the outside.  The file in use is the one asked
  for, or the one of the closest directory that has any.  Its document gives some
  settings and leaves the others open.

  Loading passes stages in a fixed order.  Each stage fails on a condition of its
  own, which is stated without regard to the stages before it: a file may have an
  unset variable in its address, another in its markup and no time limit at once.
  What loading reports is the first stage that fails.
-/
import CodeFigure.Config.Load

namespace CodeFigure.Config

open CodeFigure.Toml

/-- `url` starts with one of the two schemes that HTTP has. -/
def IsHttp (url : String) : Prop :=
  "http://".toList <+: url.toList ∨ "https://".toList <+: url.toList

/-! ### The file in use -/

def fileAt (place : Path) : String := pathText (place ++ [fileName])

/-- `path` is the configuration file of `directory` or, if that has none, of the
    closest directory above it that has one. -/
def IsNearest (files : FileSystem) (directory : Path) (path : String) : Prop :=
  ∃ place, place <+: directory ∧ path = fileAt place ∧ files.has path = true ∧
    ∀ other, other <+: directory → files.has (fileAt other) = true → other <+: place

/-- The file in use, if any, depending on the file asked for. -/
inductive Uses (surroundings : Surroundings) : Option String → Option String → Prop
  | asked (path : String) : Uses surroundings (some path) (some path)
  | nearest {directory : Path} {path : String}
      (hdirectory : surroundings.directory = some directory)
      (hnearest : IsNearest surroundings.files directory path) :
      Uses surroundings none (some path)
  | nothing
      (hnone : ∀ directory ∈ surroundings.directory, ∀ place, place <+: directory →
        surroundings.files.has (fileAt place) = false) :
      Uses surroundings none none

/-! ### What a document gives -/

structure Written where
  baseUrl : Option String := none
  timeout : Option Nat := none
  before : Option String := none
  after : Option String := none
  highlight : Option Bool := none
deriving DecidableEq, Repr

/-- The value of a setting in a document, by the key of its group, and by its own
    key or its place in the group. -/
def settingAt? (table : Table) (group key : String) (index : Nat) : Option Value :=
  match groupOf group (table.lookup group) with
  | .ok group => group.find? key index
  | .error _ => none

structure Written.In (written : Written) (table : Table) : Prop where
  baseUrl : settingAt? table "gist" "base_url" 0 = written.baseUrl.map .text
  timeout : settingAt? table "gist" "timeout_secs" 1 = written.timeout.map fun seconds => .integer seconds
  before : settingAt? table "render" "prefix" 0 = written.before.map .text
  after : settingAt? table "render" "suffix" 1 = written.after.map .text
  highlight : settingAt? table "render" "highlight" 2 = written.highlight.map .boolean

/-- The file at `path` is a document that gives these settings. -/
def Written.At (written : Written) (files : FileSystem) (path : String) : Prop :=
  ∃ source table, files.readText path = .ok source ∧ Toml.parse source = .ok table ∧
    written.In table

/-- The settings with the defaults in the places left open. -/
def Written.filled (written : Written) : Config where
  gist := ⟨written.baseUrl.getD Resolver.defaultBaseUrl, written.timeout.getD 30⟩
  render := ⟨written.before, written.after, written.highlight.getD true⟩
  path := none

/-- The file at `path` has these settings, the open ones being filled. -/
def HasSettings (files : FileSystem) (path : String) (settings : Config) : Prop :=
  ∃ source, files.readText path = .ok source ∧ ofToml source = .ok settings

/-! ### Merged settings -/

/-- The settings are those of the document with variables expanded, then those of the
    overrides in their place, then the defaults. -/
structure Merged (environment : Environment) (written : Written) (overrides : Option Overrides)
    (config : Config) : Prop where
  /-- An overriding address is not expanded. -/
  givenUrl : ∀ url ∈ overrides.bind Overrides.baseUrl, config.gist.baseUrl = url
  writtenUrl : overrides.bind Overrides.baseUrl = none → ∀ value ∈ written.baseUrl,
    Expansion.expand environment value = .ok config.gist.baseUrl
  standardUrl : overrides.bind Overrides.baseUrl = none → written.baseUrl = none →
    config.gist.baseUrl = Resolver.defaultBaseUrl
  highlight : config.render.highlight =
    (overrides.bind Overrides.highlight).getD (written.highlight.getD true)
  timeout : config.gist.timeout = written.timeout.getD 30
  before : Option.Rel (fun value expanded => Expansion.expand environment value = .ok expanded)
    written.before config.render.before
  after : Option.Rel (fun value expanded => Expansion.expand environment value = .ok expanded)
    written.after config.render.after

/-- The settings are valid, and each comes from where it should. -/
structure Sourced (surroundings : Surroundings) (asked : Option String)
    (overrides : Option Overrides) (config : Config) : Prop where
  scheme : IsHttp config.gist.baseUrl
  time : 1 ≤ config.gist.timeout
  file : Uses surroundings asked config.path
  settings : ∃ written : Written,
    (∀ path ∈ config.path, written.At surroundings.files path) ∧
    (config.path = none → written = {}) ∧
    Merged surroundings.environment written overrides config
  /-- Without the overrides there are settings that differ in the address and in
      highlighting at most. -/
  unaffected : ∃ plain, load surroundings asked none = .ok plain ∧
    config.gist.timeout = plain.gist.timeout ∧ config.render.before = plain.render.before ∧
    config.render.after = plain.render.after ∧ config.path = plain.path

/-! ### Stages -/

inductive Stage where
  | presence
  | reading
  | document
  | expansion (field : ExpandedField)
  | validity (violation : Violation)
  | overriding (violation : Violation)
deriving DecidableEq, Repr

def Stage.ofFile : List Stage :=
  [.presence, .reading, .document,
    .expansion .baseUrl, .expansion .before, .expansion .after,
    .validity .emptyBaseUrl, .validity .foreignScheme, .validity .noTime]

def Stage.ofOverrides : List Stage :=
  [.overriding .emptyBaseUrl, .overriding .foreignScheme, .overriding .noTime]

def Stage.order : List Stage := Stage.ofFile ++ Stage.ofOverrides

def valueOf? (settings : Config) : ExpandedField → Option String
  | .baseUrl => some settings.gist.baseUrl
  | .before => settings.render.before
  | .after => settings.render.after

/-- An address and a time limit are invalid in this way. -/
def Violates (url : String) (timeout : Nat) : Violation → Prop
  | .emptyBaseUrl => url = ""
  | .foreignScheme => ¬ IsHttp url
  | .noTime => timeout = 0

/-- The address and the time limit before any override: those of the file, with
    variables expanded, or the defaults. -/
inductive Effective (surroundings : Surroundings) (asked : Option String) : String → Nat → Prop
  | expanded {path url : String} {settings : Config} (huses : Uses surroundings asked (some path))
      (hsettings : HasSettings surroundings.files path settings)
      (hurl : Expansion.expand surroundings.environment settings.gist.baseUrl = .ok url) :
      Effective surroundings asked url settings.gist.timeout
  | standard (huses : Uses surroundings asked none) :
      Effective surroundings asked Resolver.defaultBaseUrl 30

section

variable (surroundings : Surroundings) (asked : Option String) (overrides : Option Overrides)

/-- The stage fails with this error, whatever the stages before it do. -/
inductive Fails : Stage → ConfigError → Prop
  | presence {path : String} (hasked : asked = some path)
      (habsent : surroundings.files.has path = false) :
      Fails .presence (.notFound path)
  | reading {path : String} {error : FileError} (huses : Uses surroundings asked (some path))
      (hread : surroundings.files.readText path = .error error) :
      Fails .reading (.file error)
  | document {path source : String} {error : Toml.Error}
      (huses : Uses surroundings asked (some path))
      (hread : surroundings.files.readText path = .ok source)
      (hdocument : ofToml source = .error error) :
      Fails .document (.parse error)
  | expansion {path value name : String} {settings : Config} {field : ExpandedField}
      (huses : Uses surroundings asked (some path))
      (hsettings : HasSettings surroundings.files path settings)
      (hvalue : valueOf? settings field = some value)
      (hunset : Expansion.expand surroundings.environment value = .error name) :
      Fails (.expansion field) (.unsetVariable field name)
  | validity {url : String} {timeout : Nat} {violation : Violation}
      (heffective : Effective surroundings asked url timeout)
      (hviolates : Violates url timeout violation) :
      Fails (.validity violation) (.invalid violation)
  | overriding {url : String} {timeout : Nat} {given : Overrides} {violation : Violation}
      (hgiven : overrides = some given) (heffective : Effective surroundings asked url timeout)
      (hviolates : Violates (given.baseUrl.getD url) timeout violation) :
      Fails (.overriding violation) (.invalid violation)

/-- Of `stages`, the first that fails does so with this error. -/
def FailsFirst (stages : List Stage) (error : ConfigError) : Prop :=
  ∃ passed stage later, stages = passed ++ stage :: later ∧
    (∀ earlier ∈ passed, ∀ other, ¬ Fails surroundings asked overrides earlier other) ∧
    Fails surroundings asked overrides stage error

end

end CodeFigure.Config
