/-
  CodeFigure/Proofs/Config/Overriding.lean
  ========================================
  **Overrides come last and rescue nothing.**

  Loading with overrides first loads without them.  If that fails, so does the
  whole, with the same error (`load_eq_error_of_load_none`); if it succeeds, the overrides
  are put in place and have to be valid themselves (`load_eq_overridden`).

  The same holds for the choice of the file.  The nearest file is read as if it
  were asked for (`load_eq_load_of_isNearest`), so nothing that is wrong with it
  leads to a farther one.  Where there is no file, the address in the overrides is
  all that can be wrong (`load_eq_error_iff_of_no_file`).
-/
import CodeFigure.Proofs.Config.Stages

namespace CodeFigure.Config

variable {surroundings : Surroundings} {asked : Option String} {overrides : Option Overrides}

theorem load_none_eq_base : load surroundings asked none = base surroundings asked := by
  rw [load_eq_bind]
  exact bind_pure _

theorem load_eq_error_of_load_none {error : ConfigError}
    (hload : load surroundings asked none = .error error) :
    load surroundings asked overrides = .error error := by
  rw [load_none_eq_base] at hload
  rw [load_eq_bind, hload]
  rfl

theorem load_eq_overridden {config : Config} (hload : load surroundings asked none = .ok config) :
    load surroundings asked overrides = overridden config overrides := by
  rw [load_none_eq_base] at hload
  rw [load_eq_bind, hload]
  rfl

/-- **The nearest file is the one that is read**, as if it were asked for. -/
theorem load_eq_load_of_isNearest {directory : Path} {path : String}
    (hdirectory : surroundings.directory = some directory)
    (hnearest : IsNearest surroundings.files directory path) :
    load surroundings none overrides = load surroundings (some path) overrides := by
  have hfound := discover?_eq_some_iff.mpr ⟨directory, hdirectory, hnearest⟩
  rw [load_eq_bind, load_eq_bind, base, base, hfound, if_pos (has_of_discover? hfound)]

theorem load_eq_error_iff_of_no_file (huses : Uses surroundings asked none) {error : ConfigError} :
    load surroundings asked overrides = .error error ↔
      ∃ given url, overrides = some given ∧ given.baseUrl = some url ∧ ¬ IsHttp url ∧
        error = .invalid (schemeViolation url) := by
  have hbase : load surroundings asked none = .ok {} := by
    have hused := uses_iff.mp huses
    cases asked with
    | some path => cases hused
    | none =>
      have hfound : discover? surroundings = none := hused.symm
      rw [load_none_eq_base, base]
      simp only [hfound]
  rw [load_eq_overridden hbase]
  cases overrides with
  | none => simp [overridden]
  | some given =>
    by_cases hscheme : IsHttp (override {} given).gist.baseUrl
    · rw [overridden, validate_eq_ok_of_isHttp hscheme (show (30 : Nat) ≠ 0 by decide)]
      constructor
      · rintro ⟨⟩
      · rintro ⟨_, url, ⟨⟩, hgiven, hforeign, -⟩
        simp only [override, hgiven, Option.getD_some] at hscheme
        exact absurd hscheme hforeign
    · rw [overridden, validate_eq_error_of_not_isHttp hscheme]
      obtain ⟨url, hurl⟩ : ∃ url, given.baseUrl = some url := by
        cases hgiven : given.baseUrl with
        | some url => exact ⟨url, rfl⟩
        | none =>
          simp only [override, hgiven, Option.getD_none] at hscheme
          exact absurd (by decide) hscheme
      simp only [override, hurl, Option.getD_some] at hscheme ⊢
      simp [hurl, hscheme, eq_comm]

/-- **Loading stops at the first failure.**  It reports the first stage that fails,
    and succeeds when none does.  Overrides rescue no file, and no file rescues an
    override; the nearest file is used, broken or not; and where there is no file
    at all, only the address that the overrides give can be wrong. -/
theorem load_stops_at_first_failure (surroundings : Surroundings) (asked : Option String)
    (overrides : Option Overrides) :
    (∀ error, load surroundings asked overrides = .error error ↔
      FailsFirst surroundings asked overrides Stage.order error) ∧
    ((∃ config, load surroundings asked overrides = .ok config) ↔
      ∀ stage error, ¬ Fails surroundings asked overrides stage error) ∧
    (∀ error, load surroundings asked none = .error error →
      load surroundings asked overrides = .error error) ∧
    (∀ config given url, load surroundings asked none = .ok config →
      given.baseUrl = some url → ¬ IsHttp url →
        load surroundings asked (some given) = .error (.invalid (schemeViolation url))) ∧
    (∀ directory path, surroundings.directory = some directory →
      IsNearest surroundings.files directory path →
        load surroundings none overrides = load surroundings (some path) overrides) ∧
    (Uses surroundings asked none → ∀ error,
      load surroundings asked overrides = .error error ↔
        ∃ given url, overrides = some given ∧ given.baseUrl = some url ∧ ¬ IsHttp url ∧
          error = .invalid (schemeViolation url)) := by
  refine ⟨fun error => load_eq_error_iff, exists_load_eq_ok_iff,
    fun error => load_eq_error_of_load_none, ?_, ?_, ?_⟩
  · intro config given url hload hurl hforeign
    have hplace : (config.override given).gist.baseUrl = url := by simp [override, hurl]
    rw [load_eq_overridden hload, overridden, validate_eq_error_of_not_isHttp (hplace ▸ hforeign),
      hplace]
  · intro directory path hdirectory hnearest
    exact load_eq_load_of_isNearest hdirectory hnearest
  · intro huses error
    exact load_eq_error_iff_of_no_file huses

/-- What the system says of a file that may not be read. -/
def denied : FileError := .other "Permission denied (os error 13)"

/-- The file of the current directory may not be read, and the one above it is good. -/
def locked : Surroundings where
  files :=
    { has := fun path => path = "/a/octoblock.toml" ∨ path = "/octoblock.toml"
      read := fun path => if path = "/octoblock.toml" then "".toUTF8 else .error denied }
  directory := some ["a"]
  environment := environmentOf []

/-- **A file that may not be read is not missing.**  The nearest one is not passed over for
    the good one above it, and asked for it is not reported as absent. -/
theorem load_stops_at_first_failure_locked :
    load locked none none = .error (.file denied) ∧
      load locked none (some ⟨some "ftp://h", none⟩) = .error (.file denied) ∧
      load locked (some "/a/octoblock.toml") none = .error (.file denied) ∧
      load locked (some "/b") none = .error (.notFound "/b") ∧
      load locked (some "/octoblock.toml") (some ⟨some "ftp://h", none⟩) =
        .error (.invalid .foreignScheme) := by
  have hread : locked.files.readText "/a/octoblock.toml" = .error denied := rfl
  have hasked : load locked (some "/a/octoblock.toml") none = .error (.file denied) := by
    obtain ⟨hfirst, -⟩ := load_stops_at_first_failure locked (some "/a/octoblock.toml") none
    refine (hfirst _).mpr ⟨[.presence], .reading, _, rfl, ?_, .reading (.asked _) hread⟩
    intro earlier hearlier other hfails
    cases List.mem_singleton.mp hearlier
    exact not_fails_presence (by decide) hfails
  have hnearest : IsNearest locked.files ["a"] "/a/octoblock.toml" :=
    ⟨["a"], List.prefix_rfl, by decide, by decide, fun _ hother _ => hother⟩
  have hplain : load locked none none = .error (.file denied) := by
    obtain ⟨-, -, -, -, hread, -⟩ := load_stops_at_first_failure locked none none
    exact (hread _ _ rfl hnearest).trans hasked
  have hgood : load locked (some "/octoblock.toml") none =
      .ok { path := some "/octoblock.toml" } := eq_ok_of_toOption (by decide +kernel)
  obtain ⟨-, -, hrescues, -⟩ :=
    load_stops_at_first_failure locked none (some ⟨some "ftp://h", none⟩)
  obtain ⟨-, -, -, hrescued, -⟩ := load_stops_at_first_failure locked (some "/octoblock.toml") none
  refine ⟨hplain, hrescues _ hplain, hasked, ?_, ?_⟩
  · obtain ⟨hfirst, -⟩ := load_stops_at_first_failure locked (some "/b") none
    exact (hfirst _).mpr ⟨[], .presence, _, rfl, nofun, .presence rfl (by decide)⟩
  · exact hrescued _ ⟨some "ftp://h", none⟩ "ftp://h" hgood rfl (by decide)

end CodeFigure.Config
