/-
  CodeFigure/Proofs/Config/Validity.lean
  ======================================
  **When settings are valid.**

  Settings pass three tests, one after the other, and the first that they do not
  pass is reported (`validate_eq_checks`).  An empty address has no scheme either,
  so what it takes to be valid is a scheme that HTTP has and some time
  (`validate_eq_ok_self_iff`).
-/
import CodeFigure.Config.Sources

namespace CodeFigure.Config

variable {url : String} {timeout : Nat} {error : ConfigError} {violation : Violation}

theorem hasHttpScheme_eq_true_iff {url : String} : hasHttpScheme url = true ↔ IsHttp url := by
  simp only [hasHttpScheme, IsHttp, Bool.or_eq_true, List.isPrefixOf_iff_prefix]

theorem violates_foreignScheme_iff :
    Violates url timeout .foreignScheme ↔ (!hasHttpScheme url) = true := by
  rw [Violates, ← hasHttpScheme_eq_true_iff, Bool.not_eq_true, Bool.not_eq_true']

instance (url : String) : Decidable (IsHttp url) :=
  decidable_of_iff (hasHttpScheme url = true) hasHttpScheme_eq_true_iff

instance (url : String) (timeout : Nat) : (violation : Violation) →
    Decidable (Violates url timeout violation)
  | .emptyBaseUrl => inferInstanceAs (Decidable (url = ""))
  | .foreignScheme => inferInstanceAs (Decidable (¬ IsHttp url))
  | .noTime => inferInstanceAs (Decidable (timeout = 0))

/-- One of the tests that settings have to pass. -/
def check (url : String) (timeout : Nat) (violation : Violation) : Except ConfigError Unit :=
  if Violates url timeout violation then .error (.invalid violation) else .ok ()

theorem check_of_violates (violation : Violation) (hviolates : Violates url timeout violation) :
    check url timeout violation = .error (.invalid violation) :=
  if_pos hviolates

theorem check_of_not_violates (violation : Violation) (hholds : ¬ Violates url timeout violation) :
    check url timeout violation = .ok () :=
  if_neg hholds

theorem check_eq_error_iff :
    check url timeout violation = .error error ↔
      Violates url timeout violation ∧ error = .invalid violation := by
  by_cases hviolates : Violates url timeout violation
  · simp [check_of_violates violation hviolates, hviolates, eq_comm]
  · simp [check_of_not_violates violation hviolates, hviolates]

/-- The tests that settings have to pass, one after the other. -/
theorem validate_eq_checks (config : Config) :
    config.validate =
      (check config.gist.baseUrl config.gist.timeout .emptyBaseUrl >>= fun _ =>
        check config.gist.baseUrl config.gist.timeout .foreignScheme >>= fun _ =>
          check config.gist.baseUrl config.gist.timeout .noTime >>= fun _ =>
            pure config) := by
  unfold validate violation?
  by_cases hempty : config.gist.baseUrl = ""
  · rw [if_pos hempty, check_of_violates .emptyBaseUrl hempty]
    rfl
  · rw [if_neg hempty, check_of_not_violates .emptyBaseUrl hempty]
    by_cases hscheme : (!hasHttpScheme config.gist.baseUrl) = true
    · rw [if_pos hscheme, check_of_violates .foreignScheme (violates_foreignScheme_iff.mpr hscheme)]
      rfl
    · rw [if_neg hscheme,
        check_of_not_violates .foreignScheme (mt violates_foreignScheme_iff.mp hscheme)]
      by_cases htime : config.gist.timeout = 0
      · rw [if_pos htime, check_of_violates .noTime htime]
        rfl
      · rw [if_neg htime, check_of_not_violates .noTime htime]
        rfl

/-- What is wrong with an address that is not one that HTTP has. -/
def schemeViolation (url : String) : Violation :=
  if url = "" then .emptyBaseUrl else .foreignScheme

theorem validate_eq_error_of_not_isHttp {config : Config} (hforeign : ¬ IsHttp config.gist.baseUrl) :
    config.validate = .error (.invalid (schemeViolation config.gist.baseUrl)) := by
  rw [validate_eq_checks, schemeViolation]
  by_cases hempty : config.gist.baseUrl = ""
  · rw [check_of_violates .emptyBaseUrl hempty, if_pos hempty]
    rfl
  · rw [check_of_not_violates .emptyBaseUrl hempty, check_of_violates .foreignScheme hforeign,
      if_neg hempty]
    rfl

theorem validate_eq_ok_of_isHttp {config : Config} (hscheme : IsHttp config.gist.baseUrl)
    (htime : config.gist.timeout ≠ 0) : config.validate = .ok config := by
  have hne : config.gist.baseUrl ≠ "" := by
    intro hempty
    rw [hempty] at hscheme
    exact absurd hscheme (by decide)
  rw [validate_eq_checks, check_of_not_violates .emptyBaseUrl hne,
    check_of_not_violates .foreignScheme (not_not_intro hscheme),
    check_of_not_violates .noTime htime]
  rfl

/-- **Settings are valid** when HTTP has the scheme of the address and there is some time. -/
theorem validate_eq_ok_self_iff {config : Config} :
    config.validate = .ok config ↔ IsHttp config.gist.baseUrl ∧ 1 ≤ config.gist.timeout := by
  constructor
  · intro hvalid
    by_cases hscheme : IsHttp config.gist.baseUrl
    · refine ⟨hscheme, Nat.one_le_iff_ne_zero.mpr ?_⟩
      intro htime
      rw [validate_eq_checks, check_of_violates .noTime htime,
        check_of_not_violates .foreignScheme (not_not_intro hscheme)] at hvalid
      by_cases hempty : config.gist.baseUrl = ""
      · rw [check_of_violates .emptyBaseUrl hempty] at hvalid
        cases hvalid
      · rw [check_of_not_violates .emptyBaseUrl hempty] at hvalid
        cases hvalid
    · cases hvalid.symm.trans (validate_eq_error_of_not_isHttp hscheme)
  · rintro ⟨hscheme, htime⟩
    exact validate_eq_ok_of_isHttp hscheme (Nat.one_le_iff_ne_zero.mp htime)

end CodeFigure.Config
