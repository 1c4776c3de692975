import GatewayTunnel.Config.Settings
import GatewayTunnel.Proofs.Policy.Levels
import GatewayTunnel.Proofs.Validation.Grammar

namespace GatewayTunnel.Config

open Validation (FitHost FitUser FitAddress RefusedHost RefusedAddress)

variable {e : ValidationError} {detail field : String}

def Outbound.Fit (o : Outbound) : Prop :=
  FitHost (Text.trimmed o.address.toList) ∧ o.port ≠ 0 ∧ FitUser o.user

def Forward.Fit (f : Forward) : Prop :=
  FitAddress f.listen ∧ FitAddress f.target

namespace Settings

variable {s : Settings} {levels : List (String × LevelPolicy)}

def Fit (s : Settings) : Prop :=
  s.outbound.Fit ∧ (∀ entry ∈ s.policy.levels, ∃ n, PolicyTable.Names entry.1 n) ∧
    ∀ f ∈ s.forwards, f.Fit

/-- The first thing that is wrong with the settings. -/
inductive FirstOffender (s : Settings) : ValidationError → Prop
  | address (detail : String) (refused : RefusedHost (Text.trimmed s.outbound.address.toList) detail) :
      FirstOffender s ⟨"outbound.address", detail⟩
  | port (host : FitHost (Text.trimmed s.outbound.address.toList)) (zero : s.outbound.port = 0) :
      FirstOffender s ⟨"outbound.port", "port must be between 1 and 65535"⟩
  | user (host : FitHost (Text.trimmed s.outbound.address.toList)) (port : s.outbound.port ≠ 0)
      (refused : ¬FitUser s.outbound.user) :
      FirstOffender s ⟨"outbound.user", "invalid user name '" ++ Text.trim s.outbound.user ++ "'"⟩
  | level (key : String) (outbound : s.outbound.Fit) (least : s.policy.IsLeastInvalid key) :
      FirstOffender s ⟨"policy.levels", "level '" ++ key ++ "' is not an unsigned integer"⟩
  | listen (before : List Forward) (f : Forward) (after : List Forward) (detail : String)
      (outbound : s.outbound.Fit) (named : ∀ entry ∈ s.policy.levels, ∃ n, PolicyTable.Names entry.1 n)
      (split : s.forwards = before ++ f :: after) (earlier : ∀ g ∈ before, g.Fit)
      (refused : RefusedAddress f.listen detail) : FirstOffender s ⟨"forward.listen", detail⟩
  | target (before : List Forward) (f : Forward) (after : List Forward) (detail : String)
      (outbound : s.outbound.Fit) (named : ∀ entry ∈ s.policy.levels, ∃ n, PolicyTable.Names entry.1 n)
      (split : s.forwards = before ++ f :: after) (earlier : ∀ g ∈ before, g.Fit)
      (listen : FitAddress f.listen) (refused : RefusedAddress f.target detail) :
      FirstOffender s ⟨"forward.target", detail⟩

end Settings

/-! ## The gateway's section -/

namespace Outbound

variable {o : Outbound}

theorem validate_eq_ok_iff : o.validate = .ok () ↔
    Validation.checkHost o.address = .ok () ∧ o.port ≠ 0 ∧ Validation.checkUser o.user = .ok () := by
  simp only [validate, Validation.bind_eq_ok_iff, Validation.inField_eq_ok_iff,
    Validation.checkPort_eq_ok_iff]

theorem validate_eq_ok_iff_fit : o.validate = .ok () ↔ o.Fit := by
  rw [validate_eq_ok_iff, Validation.checkHost_eq_ok_iff_fit, Validation.checkUser_eq_ok_iff]
  rfl

theorem validate_eq_error_iff : o.validate = .error e ↔
    (e.field = "outbound.address" ∧ RefusedHost (Text.trimmed o.address.toList) e.detail) ∨
    (FitHost (Text.trimmed o.address.toList) ∧ e.field = "outbound.port" ∧ o.port = 0 ∧
      "port must be between 1 and 65535" = e.detail) ∨
    (FitHost (Text.trimmed o.address.toList) ∧ o.port ≠ 0 ∧ e.field = "outbound.user" ∧
      ¬FitUser o.user ∧ "invalid user name '" ++ Text.trim o.user ++ "'" = e.detail) := by
  simp only [validate, Validation.bind_eq_error_iff, Validation.exists_eq_ok_iff,
    Validation.inField_eq_ok_iff, Validation.inField_eq_error_iff, Validation.checkHost_error_iff,
    Validation.checkPort_error_iff, Validation.checkUser_error_iff,
    Validation.checkHost_eq_ok_iff_fit, Validation.checkPort_eq_ok_iff, and_or_left]

end Outbound

/-! ## Forwards -/

namespace Forward

variable {f : Forward}

theorem validate_eq_ok_iff_fit : f.validate = .ok () ↔ f.Fit := by
  simp only [validate, Validation.bind_const_eq_ok_iff, Validation.inField_eq_ok_iff,
    Validation.exists_checkAddress_iff, Fit]
  exact and_congr_right fun _ => and_iff_left rfl

theorem validate_eq_error_iff : f.validate = .error e ↔
    (e.field = "forward.listen" ∧ RefusedAddress f.listen e.detail) ∨
    (FitAddress f.listen ∧ e.field = "forward.target" ∧ RefusedAddress f.target e.detail) := by
  have passed : (pure () : Except ValidationError Unit) ≠ .error e := nofun
  simp only [validate, Validation.bind_eq_error_iff, Validation.inField_eq_ok_iff,
    Validation.exists_checkAddress_iff, Validation.inField_eq_error_iff,
    Validation.checkAddress_error_iff, passed, and_false, or_false]

end Forward

/-! ## Levels -/

namespace Settings

variable {s : Settings} {t : PolicyTable} {levels : List (String × LevelPolicy)}

theorem checkLevels_eq_ok_iff : checkLevels t = .ok () ↔ t.invalidLevels = [] := by
  unfold checkLevels
  cases t.invalidLevels <;> simp [Validation.inField, Except.mapError]

theorem checkLevels_eq_error_iff : checkLevels t = .error e ↔ ∃ key, t.IsLeastInvalid key ∧
    ⟨"policy.levels", "level '" ++ key ++ "' is not an unsigned integer"⟩ = e := by
  simp only [PolicyTable.isLeastInvalid_iff]
  unfold checkLevels
  cases t.invalidLevels with
  | nil => simp
  | cons least rest =>
      constructor
      · rintro ⟨⟩
        exact ⟨least, ⟨rest, rfl⟩, rfl⟩
      · rintro ⟨_, ⟨_, ⟨⟩⟩, rfl⟩
        rfl

theorem checkLevels_perm (order : levels.Perm t.levels) : checkLevels ⟨levels⟩ = checkLevels t := by
  rw [checkLevels, checkLevels, PolicyTable.invalidLevels_perm order]

/-! ## The verdict -/

theorem validate_eq_ok_iff_fit : s.validate = .ok () ↔ s.Fit := by
  simp only [validate, Validation.bind_eq_ok_iff, Validation.forM_eq_ok_iff,
    Outbound.validate_eq_ok_iff_fit, checkLevels_eq_ok_iff, PolicyTable.invalidLevels_eq_nil_iff,
    Forward.validate_eq_ok_iff_fit, Fit]

theorem validate_eq_error_iff : s.validate = .error e ↔ s.FirstOffender e := by
  simp only [validate, Validation.bind_eq_error_iff, Validation.exists_eq_ok_iff,
    Validation.forM_eq_error_iff, Outbound.validate_eq_ok_iff_fit, Outbound.validate_eq_error_iff,
    checkLevels_eq_ok_iff, PolicyTable.invalidLevels_eq_nil_iff, checkLevels_eq_error_iff,
    Forward.validate_eq_ok_iff_fit, Forward.validate_eq_error_iff]
  obtain ⟨field, detail⟩ := e
  constructor
  · rintro ((⟨rfl, refused⟩ | ⟨host, rfl, zero, rfl⟩ | ⟨host, port, rfl, refused, rfl⟩) |
      ⟨outbound, ⟨key, least, ⟨⟩⟩ | ⟨named, before, f, after, split, earlier,
        ⟨rfl, refused⟩ | ⟨listen, rfl, refused⟩⟩⟩)
    · exact .address _ refused
    · exact .port host zero
    · exact .user host port refused
    · exact .level key outbound least
    · exact .listen before f after _ outbound named split earlier refused
    · exact .target before f after _ outbound named split earlier listen refused
  · intro offender
    cases offender with
    | address _ refused => exact .inl (.inl ⟨rfl, refused⟩)
    | port host zero => exact .inl (.inr (.inl ⟨host, rfl, zero, rfl⟩))
    | user host port refused => exact .inl (.inr (.inr ⟨host, port, rfl, refused, rfl⟩))
    | level key outbound least => exact .inr ⟨outbound, .inl ⟨key, least, rfl⟩⟩
    | listen before f after _ outbound named split earlier refused =>
        exact .inr ⟨outbound, .inr ⟨named, before, f, after, split, earlier, .inl ⟨rfl, refused⟩⟩⟩
    | target before f after _ outbound named split earlier listen refused =>
        exact .inr ⟨outbound, .inr ⟨named, before, f, after, split, earlier,
          .inr ⟨listen, rfl, refused⟩⟩⟩

/-- Settings pass if and only if the gateway's section, the keys of all levels and the addresses of all
forwards do; otherwise the error names what is wrong first. The order in which the levels are taken does not
matter, not even for the error. -/
theorem verdict_exact (order : levels.Perm s.policy.levels) :
    (validate { s with policy := ⟨levels⟩ } = .ok () ↔ s.Fit) ∧
    (∀ e, validate { s with policy := ⟨levels⟩ } = .error e ↔ s.FirstOffender e) ∧
    validate { s with policy := ⟨levels⟩ } = s.validate := by
  have same : validate { s with policy := ⟨levels⟩ } = s.validate := by
    rw [validate, validate, checkLevels_perm order]
  rw [same]
  exact ⟨validate_eq_ok_iff_fit, fun e => validate_eq_error_iff, rfl⟩

def mixedUp : Settings :=
  ⟨⟨"10.0.0.5", 22, "", none, none, "", 0⟩, .standard,
    ⟨[("é", .standard), (" 7\t", .standard), ("gold", .standard), ("-1", .standard)]⟩,
    [⟨"localhost", "localhost"⟩]⟩

theorem verdict_exact_mixedUp : mixedUp.policy.levels.reverse.Perm mixedUp.policy.levels ∧
    validate { mixedUp with policy := ⟨mixedUp.policy.levels.reverse⟩ } =
      .error ⟨"policy.levels", "level '-1' is not an unsigned integer"⟩ := by
  have order := List.reverse_perm mixedUp.policy.levels
  have outbound : mixedUp.outbound.validate = .ok () := by decide +kernel
  have least : mixedUp.policy.IsLeastInvalid "-1" := by decide +kernel
  exact ⟨order, ((verdict_exact order).2.1 _).2
    (.level "-1" (Outbound.validate_eq_ok_iff_fit.1 outbound) least)⟩

end Settings

end GatewayTunnel.Config
