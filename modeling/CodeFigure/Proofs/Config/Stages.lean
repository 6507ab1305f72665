/-
  CodeFigure/Proofs/Config/Stages.lean
  ====================================
  **Loading reports the first stage that fails.**

  Loading is a chain of computations.  Each of them fails exactly as the stage that
  it stands for does, once those before it have succeeded (`readText_eq_error_iff`,
  `ofToml_eq_error_iff`, `fails_expansion_iff`, `validate_bind_eq_error_iff`).  A
  chain of that kind reports the first stage that fails (`bind_eq_error_iff`), so
  the stages can be taken off their list one after the other, from presence to
  overriding (`load_eq_error_iff`).  Where no stage fails, there are settings in the end
  (`exists_load_eq_ok_iff`).
-/
import CodeFigure.Proofs.Config.Discovery
import CodeFigure.Proofs.Config.Validity

namespace CodeFigure.Config

variable {surroundings : Surroundings} {asked : Option String} {overrides : Option Overrides}

/-! ### Lists of stages -/

section

variable {stage : Stage} {stages : List Stage} {error : ConfigError}

theorem not_failsFirst_nil : ¬ FailsFirst surroundings asked overrides [] error := by
  rintro ⟨passed, stage, later, hsplit, -⟩
  exact List.append_ne_nil_of_right_ne_nil passed (List.cons_ne_nil stage later) hsplit.symm

theorem failsFirst_cons_iff :
    FailsFirst surroundings asked overrides (stage :: stages) error ↔
      Fails surroundings asked overrides stage error ∨
        (∀ other, ¬ Fails surroundings asked overrides stage other) ∧
          FailsFirst surroundings asked overrides stages error := by
  constructor
  · rintro ⟨passed, found, later, hsplit, hpassed, hfails⟩
    cases passed with
    | nil =>
      obtain ⟨rfl, -⟩ := List.cons.inj hsplit
      exact .inl hfails
    | cons first passed =>
      obtain ⟨rfl, hrest⟩ := List.cons.inj hsplit
      refine .inr ⟨hpassed stage List.mem_cons_self, passed, found, later, hrest, ?_, hfails⟩
      intro earlier hearlier
      exact hpassed earlier (List.mem_cons_of_mem stage hearlier)
  · rintro (hfails | ⟨hpasses, passed, found, later, rfl, hpassed, hfails⟩)
    · exact ⟨[], stage, stages, rfl, by simp, hfails⟩
    · refine ⟨stage :: passed, found, later, rfl, ?_, hfails⟩
      intro earlier hearlier
      rcases List.mem_cons.mp hearlier with rfl | hearlier
      · exact hpasses
      · exact hpassed earlier hearlier

theorem failsFirst_cons_of_passes (hpasses : ∀ other, ¬ Fails surroundings asked overrides stage other) :
    FailsFirst surroundings asked overrides (stage :: stages) error ↔
      FailsFirst surroundings asked overrides stages error := by
  rw [failsFirst_cons_iff]
  constructor
  · rintro (hfails | ⟨-, hfirst⟩)
    · exact absurd hfails (hpasses error)
    · exact hfirst
  · intro hfirst
    exact .inr ⟨hpasses, hfirst⟩

theorem failsFirst_append_of_passes {front : List Stage}
    (hpasses : ∀ stage ∈ front, ∀ other, ¬ Fails surroundings asked overrides stage other) :
    FailsFirst surroundings asked overrides (front ++ stages) error ↔
      FailsFirst surroundings asked overrides stages error := by
  induction front with
  | nil => exact Iff.rfl
  | cons first front ih =>
    rw [List.cons_append, failsFirst_cons_of_passes (hpasses first List.mem_cons_self)]
    apply ih
    intro stage hstage
    exact hpasses stage (List.mem_cons_of_mem first hstage)

/-- Where any stage fails, one of them fails first. -/
theorem exists_failsFirst_iff :
    (∃ error, FailsFirst surroundings asked overrides stages error) ↔
      ∃ stage ∈ stages, ∃ error, Fails surroundings asked overrides stage error := by
  constructor
  · rintro ⟨error, passed, stage, later, rfl, -, hfails⟩
    exact ⟨stage, by simp, error, hfails⟩
  · intro hsome
    induction stages with
    | nil => simp at hsome
    | cons first rest ih =>
      by_cases hfirst : ∃ error, Fails surroundings asked overrides first error
      · obtain ⟨error, hfails⟩ := hfirst
        exact ⟨error, failsFirst_cons_iff.mpr (.inl hfails)⟩
      · obtain ⟨stage, hstage, hfails⟩ := hsome
        rcases List.mem_cons.mp hstage with rfl | hrest
        · exact absurd hfails hfirst
        · obtain ⟨error, hlater⟩ := ih ⟨stage, hrest, hfails⟩
          refine ⟨error, failsFirst_cons_iff.mpr (.inr ⟨?_, hlater⟩)⟩
          intro other hother
          exact hfirst ⟨other, hother⟩

/-- **A chain reports its first failure.**  Work that fails as a stage does, and goes
    on with work that fails as the stages behind it do, fails as all of them do. -/
theorem bind_eq_error_iff {α β : Type} {work : Except ConfigError α}
    {next : α → Except ConfigError β}
    (hstage : ∀ error, work = .error error ↔ Fails surroundings asked overrides stage error)
    (hnext : ∀ value, work = .ok value → ∀ error,
      next value = .error error ↔ FailsFirst surroundings asked overrides stages error) :
    ∀ error, (work >>= next) = .error error ↔
      FailsFirst surroundings asked overrides (stage :: stages) error := by
  intro error
  cases hwork : work with
  | error reported =>
    have hfails := (hstage reported).mp hwork
    rw [failsFirst_cons_iff]
    constructor
    · rintro ⟨⟩
      exact .inl hfails
    · rintro (hother | ⟨hpasses, -⟩)
      · rw [← hwork, (hstage error).mpr hother]
        rfl
      · exact absurd hfails (hpasses reported)
  | ok value =>
    have hpasses : ∀ other, ¬ Fails surroundings asked overrides stage other := by
      intro other hother
      cases hwork.symm.trans ((hstage other).mpr hother)
    rw [failsFirst_cons_of_passes hpasses]
    exact hnext value hwork error

end

/-! ### The stages of a file -/

section

variable {path source url : String} {settings : Config} {timeout : Nat} {error : ConfigError}

theorem HasSettings.unique {files : FileSystem} {other : Config}
    (hsettings : HasSettings files path settings) (hother : HasSettings files path other) :
    settings = other := by
  obtain ⟨source, hread, hdocument⟩ := hsettings
  obtain ⟨source', hread', hdocument'⟩ := hother
  cases hread.symm.trans hread'
  cases hdocument.symm.trans hdocument'
  rfl

theorem not_fails_presence (hpresent : ∀ path ∈ asked, surroundings.files.has path = true) :
    ¬ Fails surroundings asked overrides .presence error := by
  intro hfails
  cases hfails with
  | presence hasked habsent =>
    rw [hpresent _ hasked] at habsent
    cases habsent

theorem eq_ok_of_toOption {ε α : Type} {work : Except ε α} {value : α}
    (hwork : work.toOption = some value) : work = .ok value := by
  cases work with
  | error error => cases hwork
  | ok result =>
    cases hwork
    rfl

theorem mapError_eq_ok_iff {α ε ε' : Type} {f : ε → ε'} {work : Except ε α} {value : α} :
    work.mapError f = .ok value ↔ work = .ok value := by
  cases work with
  | error cause => exact iff_of_false nofun nofun
  | ok result =>
    constructor
    · rintro ⟨⟩
      rfl
    · rintro ⟨⟩
      rfl

theorem mapError_eq_error_iff {α ε ε' : Type} {f : ε → ε'} {work : Except ε α} {error : ε'} :
    work.mapError f = .error error ↔ ∃ cause, work = .error cause ∧ error = f cause := by
  cases work with
  | error cause =>
    constructor
    · rintro ⟨⟩
      exact ⟨cause, rfl, rfl⟩
    · rintro ⟨_, ⟨⟩, rfl⟩
      rfl
  | ok result => exact iff_of_false nofun (by rintro ⟨_, ⟨⟩, -⟩)

theorem readText_eq_error_iff (huses : Uses surroundings asked (some path)) :
    (surroundings.files.readText path).mapError .file = .error error ↔
      Fails surroundings asked overrides .reading error := by
  rw [mapError_eq_error_iff]
  constructor
  · rintro ⟨cause, hread, rfl⟩
    exact .reading huses hread
  · intro hfails
    cases hfails with
    | reading huses' hread =>
      cases huses.unique huses'
      exact ⟨_, hread, rfl⟩

theorem ofToml_eq_error_iff (huses : Uses surroundings asked (some path))
    (hread : surroundings.files.readText path = .ok source) :
    (ofToml source).mapError .parse = .error error ↔
      Fails surroundings asked overrides .document error := by
  rw [mapError_eq_error_iff]
  constructor
  · rintro ⟨cause, hdocument, rfl⟩
    exact .document huses hread hdocument
  · intro hfails
    cases hfails with
    | document huses' hread' hdocument =>
      cases huses.unique huses'
      cases hread.symm.trans hread'
      exact ⟨_, hdocument, rfl⟩

theorem expandField_eq_error_iff {environment : Environment} {field : ExpandedField}
    {value : String} :
    expandField environment field value = .error error ↔
      ∃ name, Expansion.expand environment value = .error name ∧ error = .unsetVariable field name := by
  unfold expandField
  cases Expansion.expand environment value with
  | error name => simp [eq_comm]
  | ok expanded => simp

theorem fails_expansion_iff (huses : Uses surroundings asked (some path))
    (hsettings : HasSettings surroundings.files path settings) {field : ExpandedField} :
    Fails surroundings asked overrides (.expansion field) error ↔
      ∃ value, valueOf? settings field = some value ∧
        expandField surroundings.environment field value = .error error := by
  constructor
  · intro hfails
    cases hfails with
    | expansion huses' hsettings' hvalue hunset =>
      cases huses.unique huses'
      cases hsettings.unique hsettings'
      exact ⟨_, hvalue, expandField_eq_error_iff.mpr ⟨_, hunset, rfl⟩⟩
  · rintro ⟨value, hvalue, hexpand⟩
    obtain ⟨name, hunset, rfl⟩ := expandField_eq_error_iff.mp hexpand
    exact .expansion huses hsettings hvalue hunset

theorem expandOptional_eq_error_iff {environment : Environment} {field : ExpandedField}
    {value? : Option String} :
    expandOptional environment field value? = .error error ↔
      ∃ value, value? = some value ∧ expandField environment field value = .error error := by
  cases value? with
  | none => simp [expandOptional]
  | some value =>
    simp only [expandOptional, Option.some.injEq, exists_eq_left']
    cases expandField environment field value with
    | error cause => simp
    | ok expanded => simp

end

/-! ### Validity -/

section

variable {url : String} {timeout : Nat} {error : ConfigError} {violation : Violation}

theorem Effective.unique {url' : String} {timeout' : Nat}
    (heffective : Effective surroundings asked url timeout)
    (hother : Effective surroundings asked url' timeout') : url = url' ∧ timeout = timeout' := by
  cases heffective with
  | expanded huses hsettings hurl =>
    cases hother with
    | expanded huses' hsettings' hurl' =>
      cases huses.unique huses'
      cases hsettings.unique hsettings'
      cases hurl.symm.trans hurl'
      exact ⟨rfl, rfl⟩
    | standard huses' => cases huses.unique huses'
  | standard huses =>
    cases hother with
    | expanded huses' => cases huses.unique huses'
    | standard => exact ⟨rfl, rfl⟩

theorem fails_validity_iff (heffective : Effective surroundings asked url timeout) :
    Fails surroundings asked overrides (.validity violation) error ↔
      Violates url timeout violation ∧ error = .invalid violation := by
  constructor
  · intro hfails
    cases hfails with
    | validity heffective' hviolates =>
      obtain ⟨rfl, rfl⟩ := heffective.unique heffective'
      exact ⟨hviolates, rfl⟩
  · rintro ⟨hviolates, rfl⟩
    exact .validity heffective hviolates

theorem fails_overriding_iff {given : Overrides} (hgiven : overrides = some given)
    (heffective : Effective surroundings asked url timeout) :
    Fails surroundings asked overrides (.overriding violation) error ↔
      Violates (given.baseUrl.getD url) timeout violation ∧ error = .invalid violation := by
  constructor
  · intro hfails
    cases hfails with
    | overriding hgiven' heffective' hviolates =>
      obtain ⟨rfl, rfl⟩ := heffective.unique heffective'
      cases hgiven.symm.trans hgiven'
      exact ⟨hviolates, rfl⟩
  · rintro ⟨hviolates, rfl⟩
    exact .overriding hgiven heffective hviolates

/-- Validating settings, and going on with them, fails as the three tests and the
    stages behind them do. -/
theorem validate_bind_eq_error_iff {config : Config} {next : Config → Except ConfigError Config}
    {tested : Violation → Stage} {stages : List Stage}
    (htested : ∀ violation error,
      Fails surroundings asked overrides (tested violation) error ↔
        Violates config.gist.baseUrl config.gist.timeout violation ∧ error = .invalid violation)
    (hnext : ∀ error, next config = .error error ↔
      FailsFirst surroundings asked overrides stages error) :
    ∀ error, (config.validate >>= next) = .error error ↔
      FailsFirst surroundings asked overrides
        (tested .emptyBaseUrl :: tested .foreignScheme :: tested .noTime :: stages) error := by
  have hcheck : ∀ violation error,
      check config.gist.baseUrl config.gist.timeout violation = .error error ↔
        Fails surroundings asked overrides (tested violation) error := by
    intro violation error
    rw [check_eq_error_iff, htested]
  rw [validate_eq_checks]
  simp only [bind_assoc, pure_bind]
  apply bind_eq_error_iff (hcheck .emptyBaseUrl)
  intro _ _
  apply bind_eq_error_iff (hcheck .foreignScheme)
  intro _ _
  apply bind_eq_error_iff (hcheck .noTime)
  intro _ _
  exact hnext

end

/-! ### The chain -/

section

variable {path : String} {error : ConfigError}

/-- Settings with the overrides, where there are any, in place. -/
def overridden (config : Config) : Option Overrides → Except ConfigError Config
  | none => .ok config
  | some given => (config.override given).validate

theorem load_eq_bind :
    load surroundings asked overrides =
      base surroundings asked >>= fun config => overridden config overrides := by
  unfold load overridden
  cases overrides with
  | none => rfl
  | some given => rfl

theorem expandField_eq_ok_iff {environment : Environment} {field : ExpandedField}
    {value expanded : String} :
    expandField environment field value = .ok expanded ↔
      Expansion.expand environment value = .ok expanded := by
  unfold expandField
  cases Expansion.expand environment value with
  | error name => simp
  | ok text => simp

/-- The stages of a file as one chain. -/
theorem ofFile_bind_eq (next : Config → Except ConfigError Config) :
    (ofFile surroundings path >>= next) =
      (surroundings.files.readText path).mapError .file >>= fun source =>
        (ofToml source).mapError .parse >>= fun settings =>
          expandField surroundings.environment .baseUrl settings.gist.baseUrl >>= fun baseUrl =>
            expandOptional surroundings.environment .before settings.render.before >>= fun before =>
              expandOptional surroundings.environment .after settings.render.after >>= fun after =>
                validate ⟨{ settings.gist with baseUrl }, { settings.render with before, after },
                  some path⟩ >>= next := by
  simp only [ofFile, ofText, expandAll, bind_assoc, pure_bind]

theorem overridden_eq_error_iff {config : Config}
    (heffective : Effective surroundings asked config.gist.baseUrl config.gist.timeout) :
    ∀ error, overridden config overrides = .error error ↔
      FailsFirst surroundings asked overrides Stage.ofOverrides error := by
  intro error
  cases overrides with
  | none =>
    have hpasses : ¬ FailsFirst surroundings asked none Stage.ofOverrides error := by
      rintro ⟨passed, stage, later, hsplit, -, hfails⟩
      have hstage : stage ∈ Stage.ofOverrides := by simp [hsplit]
      cases hfails with
      | overriding hgiven => cases hgiven
      | _ => simp [Stage.ofOverrides] at hstage
    exact iff_of_false nofun hpasses
  | some given =>
    rw [overridden, ← bind_pure (config.override given).validate]
    apply validate_bind_eq_error_iff
    · intro violation error
      exact fails_overriding_iff rfl heffective
    · intro error
      exact iff_of_false nofun not_failsFirst_nil

theorem ofFile_bind_eq_error_iff (huses : Uses surroundings asked (some path)) :
    ∀ error, (ofFile surroundings path >>= fun config => overridden config overrides) = .error error ↔
      FailsFirst surroundings asked overrides (Stage.ofFile.tail ++ Stage.ofOverrides) error := by
  rw [ofFile_bind_eq]
  apply bind_eq_error_iff (fun error => readText_eq_error_iff huses)
  intro source hsource
  have hread := mapError_eq_ok_iff.mp hsource
  apply bind_eq_error_iff (fun error => ofToml_eq_error_iff huses hread)
  intro settings hdocument
  have hsettings : HasSettings surroundings.files path settings :=
    ⟨source, hread, mapError_eq_ok_iff.mp hdocument⟩
  apply bind_eq_error_iff
  · intro error
    rw [fails_expansion_iff huses hsettings]
    simp [valueOf?]
  intro url hurl
  apply bind_eq_error_iff
  · intro error
    rw [fails_expansion_iff huses hsettings, expandOptional_eq_error_iff, valueOf?]
  intro before _
  apply bind_eq_error_iff
  · intro error
    rw [fails_expansion_iff huses hsettings, expandOptional_eq_error_iff, valueOf?]
  intro after _
  have heffective : Effective surroundings asked url settings.gist.timeout :=
    .expanded huses hsettings (expandField_eq_ok_iff.mp hurl)
  apply validate_bind_eq_error_iff
  · intro violation error
    exact fails_validity_iff heffective
  · exact overridden_eq_error_iff heffective

/-- Without a file, only overriding can fail. -/
theorem not_fails_of_no_file (huses : Uses surroundings asked none) :
    ∀ stage ∈ Stage.ofFile, ∀ error, ¬ Fails surroundings asked overrides stage error := by
  intro stage hstage error hfails
  cases hfails with
  | presence hasked =>
    rw [hasked] at huses
    cases huses
  | reading huses' => cases huses.unique huses'
  | document huses' => cases huses.unique huses'
  | expansion huses' => cases huses.unique huses'
  | @validity _ _ violation heffective hviolates =>
    obtain ⟨rfl, rfl⟩ := heffective.unique (.standard huses)
    revert hviolates
    cases violation with
    | emptyBaseUrl => decide
    | foreignScheme => decide
    | noTime => decide
  | overriding => simp [Stage.ofFile] at hstage

/-- **Loading reports the first stage that fails.** -/
theorem load_eq_error_iff :
    load surroundings asked overrides = .error error ↔
      FailsFirst surroundings asked overrides Stage.order error := by
  rw [load_eq_bind]
  cases hasked : asked with
  | some path =>
    by_cases hhas : surroundings.files.has path = true
    · rw [base, if_pos hhas, ofFile_bind_eq_error_iff (.asked path)]
      refine (failsFirst_cons_of_passes fun other => not_fails_presence ?_).symm
      rintro _ ⟨⟩
      exact hhas
    · have habsent : surroundings.files.has path = false := by simpa using hhas
      have hfails : Fails surroundings (some path) overrides .presence (.notFound path) :=
        .presence rfl habsent
      rw [base, if_neg hhas, Stage.order, Stage.ofFile, List.cons_append, failsFirst_cons_iff]
      constructor
      · rintro ⟨⟩
        exact .inl hfails
      · rintro (⟨⟨⟩, -⟩ | ⟨hpasses, -⟩)
        · rfl
        · exact absurd hfails (hpasses _)
  | none =>
    cases hfound : discover? surroundings with
    | some path =>
      have huses : Uses surroundings none (some path) := uses_iff.mpr hfound.symm
      simp only [base, hfound]
      rw [ofFile_bind_eq_error_iff huses]
      refine (failsFirst_cons_of_passes fun other => not_fails_presence ?_).symm
      rintro _ ⟨⟩
    | none =>
      have huses : Uses surroundings none none := uses_iff.mpr hfound.symm
      simp only [base, hfound]
      rw [Stage.order, failsFirst_append_of_passes (not_fails_of_no_file huses)]
      exact overridden_eq_error_iff (.standard huses) error

theorem mem_order_of_fails {stage : Stage}
    (hfails : Fails surroundings asked overrides stage error) : stage ∈ Stage.order := by
  cases hfails with
  | presence | reading | document => decide
  | @expansion _ _ _ _ field => cases field <;> decide
  | @validity _ _ violation => cases violation <;> decide
  | @overriding _ _ _ violation => cases violation <;> decide

/-- **Settings are loaded when no stage fails**, and only then. -/
theorem exists_load_eq_ok_iff :
    (∃ config, load surroundings asked overrides = .ok config) ↔
      ∀ stage error, ¬ Fails surroundings asked overrides stage error := by
  constructor
  · rintro ⟨config, hload⟩ stage error hfails
    obtain ⟨first, hfirst⟩ := exists_failsFirst_iff.mpr ⟨stage, mem_order_of_fails hfails, error, hfails⟩
    cases hload.symm.trans (load_eq_error_iff.mpr hfirst)
  · intro hpasses
    cases hload : load surroundings asked overrides with
    | ok config => exact ⟨config, rfl⟩
    | error error =>
      obtain ⟨_, stage, _, -, -, hfails⟩ := load_eq_error_iff.mp hload
      exact absurd hfails (hpasses stage error)

end

end CodeFigure.Config
