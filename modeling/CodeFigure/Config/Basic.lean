/-
  CodeFigure/Config/Basic.lean
  ============================
  **Settings, and when they are valid.**

  Settings come in two groups, one for downloading gists and one for rendering,
  and every one of them has a default.  They are valid when the address of the
  gist host is one that HTTP can reach and the time limit leaves any time.
-/
import CodeFigure.Files.Basic
import CodeFigure.Gist.Resolver
import CodeFigure.Toml.Document

namespace CodeFigure

/-! ### Settings -/

structure GistSettings where
  baseUrl : String := Resolver.defaultBaseUrl
  /-- The time that a download may take, in seconds. -/
  timeout : Nat := 30
deriving DecidableEq, Repr

structure RenderSettings where
  /-- Markup in front of every figure. -/
  before : Option String := none
  /-- Markup behind every figure. -/
  after : Option String := none
  highlight : Bool := true
deriving DecidableEq, Repr

/-- All settings, and the file that they come from. -/
structure Config where
  gist : GistSettings := {}
  render : RenderSettings := {}
  path : Option String := none
deriving DecidableEq, Repr

/-- Settings given on the command line, which win over the file. -/
structure Overrides where
  baseUrl : Option String := none
  highlight : Option Bool := none
deriving DecidableEq, Repr

/-! ### Errors -/

inductive Violation where
  | emptyBaseUrl
  | foreignScheme
  | noTime
deriving DecidableEq, Repr

def Violation.message : Violation → String
  | .emptyBaseUrl => "gist.base_url cannot be empty"
  | .foreignScheme => "gist.base_url must start with http:// or https://"
  | .noTime => "gist.timeout_secs must be greater than 0"

/-- The settings in which environment variables are expanded. -/
inductive ExpandedField where
  | baseUrl
  | before
  | after
deriving DecidableEq, Repr

def ExpandedField.name : ExpandedField → String
  | .baseUrl => "gist.base_url"
  | .before => "render.prefix"
  | .after => "render.suffix"

inductive ConfigError where
  | notFound (path : String)
  | file (error : FileError)
  | parse (error : Toml.Error)
  | unsetVariable (field : ExpandedField) (name : String)
  | invalid (violation : Violation)
deriving DecidableEq, Repr

def ConfigError.message : ConfigError → String
  | .notFound path => "Configuration file not found: " ++ path
  | .file error => "I/O error: " ++ error.message
  | .parse error => "TOML parse error: " ++ error.message
  | .unsetVariable field name =>
    "Environment variable error in " ++ field.name ++ ": $\x7b" ++ name ++ "\x7d not set"
  | .invalid violation => "Configuration error: " ++ violation.message

namespace Config

/-! ### Validity -/

def hasHttpScheme (url : String) : Bool :=
  "http://".toList.isPrefixOf url.toList || "https://".toList.isPrefixOf url.toList

/-- The first thing that is wrong with the settings. -/
def violation? (config : Config) : Option Violation :=
  if config.gist.baseUrl = "" then some .emptyBaseUrl
  else if !hasHttpScheme config.gist.baseUrl then some .foreignScheme
  else if config.gist.timeout = 0 then some .noTime
  else none

def validate (config : Config) : Except ConfigError Config :=
  match config.violation? with
  | some violation => .error (.invalid violation)
  | none => .ok config

theorem validate_eq_ok_iff {config result : Config} :
    config.validate = .ok result ↔ config.violation? = none ∧ config = result := by
  unfold validate
  split
  · next h => simp [h]
  · next h => simp [h]

/-! ### Overriding -/

/-- The settings with those of the command line in their place. -/
def override (config : Config) (overrides : Overrides) : Config where
  gist := { config.gist with baseUrl := overrides.baseUrl.getD config.gist.baseUrl }
  render := { config.render with highlight := overrides.highlight.getD config.render.highlight }
  path := config.path

end Config

end CodeFigure
