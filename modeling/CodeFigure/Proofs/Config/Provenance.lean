/-
  CodeFigure/Proofs/Config/Provenance.lean
  ========================================
  **Every setting comes from where it should, and all of them are valid.**

  A document that is read gives each setting a value or leaves it open
  (`exists_written_of_ofTable`), and what is left open is a default.  From there
  on, every setting goes its own way.  The address and the markup around figures
  have their variables expanded, overrides replace the address and the choice to
  highlight, and nothing else changes (`Merged`).

  There are settings in the end only if they are valid, whichever way they have
  come (`validate_of_load`).
-/
import CodeFigure.Proofs.Config.Overriding

namespace CodeFigure.Config

open CodeFigure.Toml

/-! ### Documents -/

theorem bind_eq_ok_iff {ε α β : Type} {work : Except ε α} {next : α → Except ε β} {value : β} :
    (work >>= next) = .ok value ↔ ∃ result, work = .ok result ∧ next result = .ok value := by
  cases work with
  | error error => exact iff_of_false nofun (by rintro ⟨result, ⟨⟩, -⟩)
  | ok result =>
    constructor
    · intro hnext
      exact ⟨result, rfl, hnext⟩
    · rintro ⟨_, ⟨⟩, hnext⟩
      exact hnext

theorem textSetting_eq_ok_iff {key : String} {value? : Option Value} {content? : Option String} :
    textSetting key value? = .ok content? ↔ value? = content?.map .text := by
  cases value? with
  | none => cases content? <;> simp [textSetting]
  | some value => cases value <;> cases content? <;> simp [textSetting]

theorem flagSetting_eq_ok_iff {key : String} {value? : Option Value} {flag? : Option Bool} :
    flagSetting key value? = .ok flag? ↔ value? = flag?.map .boolean := by
  cases value? with
  | none => cases flag? <;> simp [flagSetting]
  | some value => cases value <;> cases flag? <;> simp [flagSetting]

theorem eq_of_secondsSetting {key : String} {value? : Option Value} {seconds? : Option Nat}
    (hseconds : secondsSetting key value? = .ok seconds?) :
    value? = seconds?.map fun seconds => .integer seconds := by
  cases value? with
  | none =>
    cases hseconds
    rfl
  | some value =>
    cases value with
    | integer number =>
      simp only [secondsSetting] at hseconds
      split at hseconds
      · next hrange =>
        cases hseconds
        simp [Int.toNat_of_nonneg hrange.1]
      · cases hseconds
    | _ => cases hseconds

theorem settingAt?_of_groupOf {table : Table} {name key : String} {group : Group}
    (hgroup : groupOf name (table.lookup name) = .ok group) (index : Nat) :
    settingAt? table name key index = group.find? key index := by
  rw [settingAt?, hgroup]

/-- **A document that is read gives some settings** and leaves the others to the
    defaults. -/
theorem exists_written_of_ofTable {table : Table} {settings : Config}
    (htable : ofTable table = .ok settings) :
    ∃ written : Written, written.In table ∧ settings = written.filled := by
  simp only [ofTable, gistSettings, renderSettings, bind_eq_ok_iff] at htable
  obtain ⟨gistGroup, hgist, gist, ⟨url, hurl, timeout, htimeout, ⟨⟩⟩, renderGroup, hrender, render,
    ⟨before, hbefore, after, hafter, highlight, hhighlight, ⟨⟩⟩, ⟨⟩⟩ := htable
  refine ⟨⟨url, timeout, before, after, highlight⟩, ?_, rfl⟩
  exact {
    baseUrl := (settingAt?_of_groupOf hgist 0).trans (textSetting_eq_ok_iff.mp hurl)
    timeout := (settingAt?_of_groupOf hgist 1).trans (eq_of_secondsSetting htimeout)
    before := (settingAt?_of_groupOf hrender 0).trans (textSetting_eq_ok_iff.mp hbefore)
    after := (settingAt?_of_groupOf hrender 1).trans (textSetting_eq_ok_iff.mp hafter)
    highlight := (settingAt?_of_groupOf hrender 2).trans (flagSetting_eq_ok_iff.mp hhighlight) }

theorem HasSettings.exists_written {files : FileSystem} {path : String} {settings : Config}
    (hsettings : HasSettings files path settings) :
    ∃ written : Written, written.At files path ∧ settings = written.filled := by
  obtain ⟨source, hread, hdocument⟩ := hsettings
  unfold ofToml at hdocument
  split at hdocument
  · cases hdocument
  · next table hparse =>
    split at hdocument
    · cases hdocument
    · next given htable =>
      cases hdocument
      obtain ⟨written, hwritten, hfilled⟩ := exists_written_of_ofTable htable
      exact ⟨written, ⟨source, table, hread, hparse, hwritten⟩, hfilled⟩

/-! ### The way of each setting -/

variable {surroundings : Surroundings} {asked : Option String} {overrides : Option Overrides}
  {config : Config}

theorem rel_of_expandOptional {environment : Environment} {field : ExpandedField}
    {value? expanded? : Option String}
    (hexpand : expandOptional environment field value? = .ok expanded?) :
    Option.Rel (fun value expanded => Expansion.expand environment value = .ok expanded)
      value? expanded? := by
  cases value? with
  | none =>
    cases hexpand
    exact .none
  | some value =>
    simp only [expandOptional] at hexpand
    split at hexpand
    · next expanded hfield =>
      cases hexpand
      exact .some (expandField_eq_ok_iff.mp hfield)
    · cases hexpand

/-- Without overrides, the settings are those of the file in use or the defaults. -/
theorem base_cases (hload : base surroundings asked = .ok config) :
    (∃ path, Uses surroundings asked (some path) ∧ ofFile surroundings path = .ok config) ∨
      (Uses surroundings asked none ∧ config = {}) := by
  unfold base at hload
  cases asked with
  | some path =>
    simp only at hload
    split at hload
    · exact .inl ⟨path, .asked path, hload⟩
    · cases hload
  | none =>
    cases hfound : discover? surroundings with
    | some path =>
      rw [hfound] at hload
      exact .inl ⟨path, uses_iff.mpr hfound.symm, hload⟩
    | none =>
      rw [hfound] at hload
      cases hload
      exact .inr ⟨uses_iff.mpr hfound.symm, rfl⟩

/-- What has been read from a file without overrides is what the file gives. -/
theorem merged_of_ofFile {path : String} (hload : ofFile surroundings path = .ok config) :
    config.path = some path ∧ ∃ written : Written, written.At surroundings.files path ∧
      Merged surroundings.environment written none config := by
  rw [← bind_pure (ofFile surroundings path), ofFile_bind_eq] at hload
  simp only [bind_eq_ok_iff, mapError_eq_ok_iff] at hload
  obtain ⟨source, hread, settings, hdocument, url, hurl, before, hbefore, after, hafter,
    valid, hvalid, ⟨⟩⟩ := hload
  obtain ⟨-, rfl⟩ := validate_eq_ok_iff.mp hvalid
  obtain ⟨written, hwritten, rfl⟩ := HasSettings.exists_written ⟨source, hread, hdocument⟩
  refine ⟨rfl, written, hwritten, ?_⟩
  have hexpanded := expandField_eq_ok_iff.mp hurl
  exact {
    givenUrl := by rintro _ ⟨⟩
    writtenUrl := by
      intro _ value hvalue
      rw [Written.filled, hvalue] at hexpanded
      exact hexpanded
    standardUrl := by
      intro _ hopen
      rw [Written.filled, hopen] at hexpanded
      have hplain : Expansion.expand surroundings.environment Resolver.defaultBaseUrl =
          .ok Resolver.defaultBaseUrl := rfl
      exact Except.ok.inj (hexpanded.symm.trans hplain)
    highlight := rfl
    timeout := rfl
    before := rel_of_expandOptional hbefore
    after := rel_of_expandOptional hafter }

theorem merged_of_base (hload : base surroundings asked = .ok config) :
    Uses surroundings asked config.path ∧ ∃ written : Written,
      (∀ path ∈ config.path, written.At surroundings.files path) ∧
      (config.path = none → written = {}) ∧
      Merged surroundings.environment written none config := by
  rcases base_cases hload with ⟨path, huses, hfile⟩ | ⟨huses, rfl⟩
  · obtain ⟨hpath, written, hwritten, hmerged⟩ := merged_of_ofFile hfile
    rw [hpath]
    refine ⟨huses, written, ?_, nofun, hmerged⟩
    rintro _ ⟨⟩
    exact hwritten
  · refine ⟨huses, {}, nofun, fun _ => rfl, ?_⟩
    exact {
      givenUrl := by rintro _ ⟨⟩
      writtenUrl := by rintro - _ ⟨⟩
      standardUrl := fun _ _ => rfl
      highlight := rfl
      timeout := rfl
      before := .none
      after := .none }

theorem Merged.override {environment : Environment} {written : Written} {plain : Config}
    (hmerged : Merged environment written none plain) (given : Overrides) :
    Merged environment written (some given) (plain.override given) where
  givenUrl := by
    intro url hurl
    rw [Option.bind_some, Option.mem_def] at hurl
    simp [Config.override, hurl]
  writtenUrl := by
    intro hopen value hvalue
    rw [Option.bind_some] at hopen
    simpa [Config.override, hopen] using hmerged.writtenUrl rfl value hvalue
  standardUrl := by
    intro hopen hvalue
    rw [Option.bind_some] at hopen
    simpa [Config.override, hopen] using hmerged.standardUrl rfl hvalue
  highlight := by
    have hhighlight := hmerged.highlight
    rw [Option.bind_none, Option.getD_none] at hhighlight
    rw [Config.override, hhighlight, Option.bind_some]
  timeout := hmerged.timeout
  before := hmerged.before
  after := hmerged.after

/-! ### Validity -/

theorem validate_of_base (hload : base surroundings asked = .ok config) :
    config.validate = .ok config := by
  rcases base_cases hload with ⟨path, -, hfile⟩ | ⟨-, rfl⟩
  · simp only [ofFile, ofText, bind_eq_ok_iff] at hfile
    obtain ⟨_, -, _, -, _, -, hvalid⟩ := hfile
    obtain ⟨hnone, rfl⟩ := validate_eq_ok_iff.mp hvalid
    exact validate_eq_ok_iff.mpr ⟨hnone, rfl⟩
  · exact validate_eq_ok_self_iff.mpr (by decide)

/-- **Settings that are loaded are valid.** -/
theorem validate_of_load (hload : load surroundings asked overrides = .ok config) :
    config.validate = .ok config := by
  rw [load_eq_bind, bind_eq_ok_iff] at hload
  obtain ⟨plain, hplain, hover⟩ := hload
  cases overrides with
  | none =>
    cases hover
    exact validate_of_base hplain
  | some given =>
    obtain ⟨hnone, rfl⟩ := validate_eq_ok_iff.mp hover
    exact validate_eq_ok_iff.mpr ⟨hnone, rfl⟩

/-- **Loaded settings are valid and merged by precedence.**  The file in use is the one
    asked for or the nearest; overrides win over the file and the file over the
    defaults; and overrides touch nothing but the address and highlighting. -/
theorem sourced_of_load (hload : load surroundings asked overrides = .ok config) :
    Sourced surroundings asked overrides config := by
  obtain ⟨hscheme, htime⟩ := validate_eq_ok_self_iff.mp (validate_of_load hload)
  rw [load_eq_bind, bind_eq_ok_iff] at hload
  obtain ⟨plain, hplain, hover⟩ := hload
  obtain ⟨hfile, written, hpath, hnone, hmerged⟩ := merged_of_base hplain
  have hload : load surroundings asked none = .ok plain := load_none_eq_base.trans hplain
  cases overrides with
  | none =>
    cases hover
    exact ⟨hscheme, htime, hfile, ⟨written, hpath, hnone, hmerged⟩, config, hload, rfl, rfl, rfl, rfl⟩
  | some given =>
    obtain ⟨-, rfl⟩ := validate_eq_ok_iff.mp hover
    exact ⟨hscheme, htime, hfile, ⟨written, hpath, hnone, hmerged.override given⟩,
      plain, hload, rfl, rfl, rfl, rfl⟩

/-- A file without markup is loaded when its document, its address and the settings in
    the end are in order. -/
theorem load_of_document {path source url expanded : String} {timeout : Nat} {highlight : Bool}
    {given : Overrides} (hfound : discover? surroundings = some path)
    (hread : surroundings.files.read path = .ok source.toUTF8)
    (hdocument : ofToml source = .ok ⟨⟨url, timeout⟩, ⟨none, none, highlight⟩, none⟩)
    (hexpand : Expansion.expand surroundings.environment url = .ok expanded)
    (hscheme : IsHttp expanded) (htime : timeout ≠ 0)
    (hvalid : IsHttp (given.baseUrl.getD expanded)) :
    load surroundings none (some given) =
      .ok (override ⟨⟨expanded, timeout⟩, ⟨none, none, highlight⟩, some path⟩ given) := by
  have htext : surroundings.files.readText path = .ok source := by
    rw [FileSystem.readText, hread]
    exact decodeText_toUTF8 source
  have hfile : base surroundings none = ofFile surroundings path := by rw [base, hfound]
  rw [load_eq_bind, hfile, ofFile_bind_eq, htext]
  simp only [bind_eq_ok_iff, mapError_eq_ok_iff]
  exact ⟨_, rfl, _, hdocument, _, expandField_eq_ok_iff.mpr hexpand, none, rfl, none, rfl, _,
    validate_eq_ok_of_isHttp hscheme htime, validate_eq_ok_of_isHttp hvalid htime⟩

/-- A file below another one, which is broken. -/
def twoFiles : Surroundings where
  files :=
    { has := fun path => path = "/a/octoblock.toml" ∨ path = "/octoblock.toml"
      read := fun path =>
        if path = "/a/octoblock.toml" then "[gist]\nbase_url = '$\x7bHOST\x7d'\n".toUTF8
        else if path = "/octoblock.toml" then "[".toUTF8
        else .error .notFound }
  directory := some ["a", "b"]
  environment := environmentOf [("HOST", "http://h")]

theorem load_twoFiles : load twoFiles none (some { highlight := some false }) =
    .ok ⟨⟨"http://h", 30⟩, ⟨none, none, false⟩, some "/a/octoblock.toml"⟩ := by
  have hfound : discover? twoFiles = some "/a/octoblock.toml" := by decide
  have hdocument : ofToml "[gist]\nbase_url = '$\x7bHOST\x7d'\n" =
      .ok ⟨⟨"$\x7bHOST\x7d", 30⟩, {}, none⟩ := eq_ok_of_toOption (by decide +kernel)
  have hexpand : Expansion.expand twoFiles.environment "$\x7bHOST\x7d" = .ok "http://h" :=
    eq_ok_of_toOption (by decide +kernel)
  exact load_of_document hfound rfl hdocument hexpand (by decide) (by decide) (by decide)

/-- The file of the parent directory is in use, and the broken one above it is not. -/
theorem sourced_of_load_nearest :
    load twoFiles none (some { highlight := some false }) =
      .ok ⟨⟨"http://h", 30⟩, ⟨none, none, false⟩, some "/a/octoblock.toml"⟩ ∧
    Sourced twoFiles none (some { highlight := some false })
      ⟨⟨"http://h", 30⟩, ⟨none, none, false⟩, some "/a/octoblock.toml"⟩ :=
  ⟨load_twoFiles, sourced_of_load load_twoFiles⟩

end CodeFigure.Config
