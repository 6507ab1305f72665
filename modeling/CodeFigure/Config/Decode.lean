/-
  CodeFigure/Config/Decode.lean
  =============================
  **Settings in a TOML document.**

  The groups of settings are the tables `gist` and `render`.  Keys that mean
  nothing here are skipped, and settings that are not given keep their defaults;
  a setting of the wrong type is an error.

  A group may also be an array that gives its settings in order.  A date-time in
  the place of a group gives no settings.
-/
import CodeFigure.Config.Basic

namespace CodeFigure.Config

open CodeFigure.Toml

/-! ### Groups -/

/-- A group of settings as the document gives it. -/
inductive Group where
  | keyed (entries : Table)
  | listed (items : List Value)

/-- The value of a setting, by its key or by its place in the group. -/
def Group.find? (group : Group) (key : String) (index : Nat) : Option Value :=
  match group with
  | .keyed entries => entries.lookup key
  | .listed items => items[index]?

def groupOf (key : String) : Option Value → Except Problem Group
  | none => .ok (.keyed [])
  | some (.table _ entries) => .ok (.keyed entries)
  | some .datetime => .ok (.keyed [])
  | some (.array items) => .ok (.listed items)
  | some (.tables items) => .ok (.listed (items.map (Value.table .header)))
  | some _ => .error (.wrongType key "a table")

/-! ### Settings -/

def textSetting (key : String) : Option Value → Except Problem (Option String)
  | none => .ok none
  | some (.text content) => .ok (some content)
  | some _ => .error (.wrongType key "a string")

/-- The first number of seconds that 64 bits do not hold. -/
def secondsBound : Int := 18446744073709551616

/-- A setting that is a number of seconds, which 64 bits hold. -/
def secondsSetting (key : String) : Option Value → Except Problem (Option Nat)
  | none => .ok none
  | some (.integer number) =>
    if 0 ≤ number ∧ number < secondsBound then .ok (some number.toNat)
    else .error (.wrongType key "a whole number of seconds")
  | some _ => .error (.wrongType key "a whole number of seconds")

def flagSetting (key : String) : Option Value → Except Problem (Option Bool)
  | none => .ok none
  | some (.boolean value) => .ok (some value)
  | some _ => .error (.wrongType key "true or false")

def gistSettings (group : Group) : Except Problem GistSettings := do
  let defaults : GistSettings := {}
  let baseUrl ← textSetting "base_url" (group.find? "base_url" 0)
  let timeout ← secondsSetting "timeout_secs" (group.find? "timeout_secs" 1)
  pure ⟨baseUrl.getD defaults.baseUrl, timeout.getD defaults.timeout⟩

def renderSettings (group : Group) : Except Problem RenderSettings := do
  let defaults : RenderSettings := {}
  let before ← textSetting "prefix" (group.find? "prefix" 0)
  let after ← textSetting "suffix" (group.find? "suffix" 1)
  let highlight ← flagSetting "highlight" (group.find? "highlight" 2)
  pure ⟨before, after, highlight.getD defaults.highlight⟩

def ofTable (table : Table) : Except Problem Config := do
  let gist ← gistSettings (← groupOf "gist" (table.lookup "gist"))
  let render ← renderSettings (← groupOf "render" (table.lookup "render"))
  pure ⟨gist, render, none⟩

def ofToml (source : String) : Except Toml.Error Config :=
  match Toml.parse source with
  | .error error => .error error
  | .ok table =>
    match ofTable table with
    | .error problem => .error ⟨none, problem⟩
    | .ok config => .ok config

end CodeFigure.Config
