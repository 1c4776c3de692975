import GatewayTunnel.Gateway
import GatewayTunnel.Proofs.Address.Reading
import GatewayTunnel.Proofs.Config.Verdict
import GatewayTunnel.Proofs.Identity.Resolution
import GatewayTunnel.Proofs.Policy.Lookup

namespace GatewayTunnel

open Config

variable {text : String} {s : Settings}

/-! ## What was checked -/

theorem Config.Settings.outbound_of_validate (valid : s.validate = .ok ()) :
    s.outbound.validate = .ok () :=
  (Validation.bind_eq_ok_iff.1 valid).1

theorem Config.Settings.validate_of_parse (accepted : Settings.parse text = .ok s) :
    s.validate = .ok () := by
  unfold Settings.parse at accepted
  split at accepted
  · cases accepted
  · rename_i read _
    obtain ⟨valid, same⟩ := Validation.bind_eq_ok_iff.1 accepted
    cases same
    exact Validation.mapError_eq_ok_iff.1 valid

/-! ## What is built -/

theorem Identity.ofParts_username (user : String) (ms : List AuthMethod) (v : HostKeyVerifier) :
    (ofParts user ms v).username =
      if Text.trimmed user.toList = [] then "root" else Text.trim user := by
  have empty : (Text.trim user).isEmpty = true ↔ Text.trimmed user.toList = [] := by
    simp [Text.trim]
  simp only [ofParts, empty, defaultUsername]

namespace Outbound

theorem ofConfig_of_valid {c : Config.Outbound} (valid : c.validate = .ok ()) (t : Config.Transport)
    (ps : Policies) : ofConfig c t ps =
      c.identity.map fun identity => ⟨⟨c.endpoint, .standard, ps.forLevel c.userLevel⟩, identity, t⟩ := by
  unfold ofConfig
  rw [valid]
  cases c.identity <;> rfl

structure Built (s : Settings) (o : Outbound) : Prop where
  host : o.gateway.endpoint.host = Text.trim s.outbound.address
  checked : Validation.checkHost o.gateway.endpoint.host = .ok ()
  isHost : Validation.IsHost o.gateway.endpoint.host.toList
  port : o.gateway.endpoint.port = s.outbound.port ∧ o.gateway.endpoint.port ≠ 0
  reads : Destination.parseTcp? o.gateway.endpoint.render = some ⟨.tcp, o.gateway.endpoint⟩
  user : o.identity.username = "root" ∨
    o.identity.username = Text.trim s.outbound.user ∧
      Validation.IsUserName o.identity.username.toList
  named : ∀ entry ∈ s.policy.levels, PolicyTable.levelOfKey? entry.1 = some s.outbound.userLevel →
    o.gateway.policy = entry.2.toSession
  unnamed : (∀ entry ∈ s.policy.levels,
    PolicyTable.levelOfKey? entry.1 ≠ some s.outbound.userLevel) → o.gateway.policy = .standard
  pinned : o.identity.verifier.isPinned = true ↔
    ∃ line ∈ Text.lines s.outbound.publicKey.toList, Text.trimmed line ≠ []

variable {o : Outbound} {levels : List (String × LevelPolicy)}

theorem host_of_valid (valid : s.outbound.validate = .ok ()) :
    Validation.checkHost s.outbound.endpoint.host = .ok () ∧
      Text.trim s.outbound.endpoint.host = s.outbound.endpoint.host := by
  refine ⟨?_, ?_⟩
  · rw [Config.Outbound.endpoint, Validation.checkHost_trim]
    exact (Config.Outbound.validate_eq_ok_iff.1 valid).1
  · simp only [Config.Outbound.endpoint, Text.trim, String.toList_ofList, Text.trimmed_trimmed]

theorem user_of_valid (valid : s.outbound.validate = .ok ()) (ms : List AuthMethod)
    (v : HostKeyVerifier) : (Identity.ofParts s.outbound.user ms v).username = "root" ∨
      (Identity.ofParts s.outbound.user ms v).username = Text.trim s.outbound.user ∧
        Validation.IsUserName (Identity.ofParts s.outbound.user ms v).username.toList := by
  rw [Identity.ofParts_username]
  have checked := Validation.checkUser_eq_ok_iff.1 (Config.Outbound.validate_eq_ok_iff.1 valid).2.2
  split
  · exact .inl rfl
  · rename_i filled
    refine .inr ⟨rfl, ?_⟩
    rw [Text.trim, String.toList_ofList]
    exact checked.resolve_left filled

theorem built_of_ok (valid : s.outbound.validate = .ok ()) (distinct : s.policy.Distinct)
    (order : levels.Perm s.policy.levels)
    (ok : ofSettings { s with policy := ⟨levels⟩ } = .ok o) : Built s o := by
  rw [ofSettings, ofConfig_of_valid valid, Validation.map_eq_ok_iff] at ok
  obtain ⟨identity, resolved, rfl⟩ := ok
  obtain ⟨_, offer, v, -, list, rfl⟩ := Identity.exists_parts_of_resolve resolved
  obtain ⟨checked, trimmed⟩ := host_of_valid valid
  have isHost := (Validation.checkHost_eq_ok_iff.1 checked).2.2
  exact {
    host := rfl
    checked := checked
    isHost := by rwa [← trimmed, Text.trim, String.toList_ofList]
    port := ⟨rfl, (Config.Outbound.validate_eq_ok_iff.1 valid).2.1⟩
    reads := by
      simp only [Destination.parseTcp?, Address.parse?_render_of_checkHost checked,
        Address.bared_eq_self trimmed, Option.map_some]
    user := user_of_valid valid _ v
    named := fun entry member named =>
      Policies.forLevel_ofTable_of_named (distinct.perm order) (order.mem_iff.2 member) named
    unnamed := fun unnamed => Policies.forLevel_ofTable_of_not_named fun entry member =>
      unnamed entry (order.mem_iff.1 member)
    pinned := HostKeyVerifier.isPinned_iff_of_read (HostKeyVerifier.ofAuthorizedKeys_eq_ok_iff.1 list) }

/-- Accepted settings whose keys of levels are different numbers are built in whatever order the levels
are taken, if the private key and the list of host keys can be read; if not, these are the error. -/
theorem accepted_is_buildable (accepted : Settings.parse text = .ok s) (distinct : s.policy.Distinct)
    (order : levels.Perm s.policy.levels) :
    (∀ e, ofSettings { s with policy := ⟨levels⟩ } = .error e ↔ s.outbound.identity = .error e) ∧
    (∀ e, ofSettings { s with policy := ⟨levels⟩ } = .error e →
      (∃ reason, e = .invalidPrivateKey reason) ∨
        ∃ number reason, e = .invalidPublicKey number reason) ∧
    ∀ o, ofSettings { s with policy := ⟨levels⟩ } = .ok o → Built s o := by
  have valid := Settings.outbound_of_validate (Settings.validate_of_parse accepted)
  have failed : ∀ e, ofSettings { s with policy := ⟨levels⟩ } = .error e ↔
      s.outbound.identity = .error e := by
    intro e
    rw [ofSettings, ofConfig_of_valid valid, Validation.map_eq_error_iff]
  refine ⟨failed, fun e error => ?_, fun o ok => built_of_ok valid distinct order ok⟩
  exact Identity.keyFault_of_resolve ((failed e).1 error)

def sample : String :=
  "[outbound]\naddress = \" fe80::1\t\"\nuser_level = 7\n" ++
    "[policy.levels.\" 07\"]\nuplink_only_secs = 9\n[policy.levels.8]\n"

def sampleSettings : Settings :=
  ⟨⟨" fe80::1\t", 22, "", none, none, "", 7⟩, .standard,
    ⟨[(" 07", ⟨300, 9, 1⟩), ("8", .standard)]⟩, []⟩

theorem accepted_is_buildable_sample : Settings.parse sample = .ok sampleSettings ∧
    sampleSettings.policy.Distinct ∧
    Built sampleSettings ⟨⟨⟨"fe80::1", 22⟩, .standard, (LevelPolicy.mk 300 9 1).toSession⟩,
      ⟨"root", [], .acceptAny⟩, .standard⟩ := by
  have accepted : Settings.parse sample = .ok sampleSettings := by decide +kernel
  have distinct : sampleSettings.policy.Distinct := by decide
  refine ⟨accepted, distinct, ?_⟩
  refine (accepted_is_buildable accepted distinct (List.reverse_perm _)).2.2 _ ?_
  decide +kernel

end Outbound

end GatewayTunnel
