import GatewayTunnel.Proofs.Connection.Credentials
import GatewayTunnel.Proofs.Identity.Resolution

namespace GatewayTunnel

/-! ## A login with one offer -/

namespace Login

variable {i : Identity} {gateway : String} {answers : Nat → Answer} {o : Offer}

inductive Ends (a : Account) (name : String) : AuditEvent → Prop where
  | success : Ends a name (.authSuccess a.gateway a.username name)
  | failure (reason : String) : Ends a name (.authFailure a.gateway a.username name reason)

theorem run_single (same : i.methods = Identity.methodsFor o) :
    ∃ ended, Ends ⟨gateway, i.username⟩ o.name ended ∧ (run i gateway answers).2 =
      [.logged (.authAttempt gateway i.username o.name), .offered o, .logged ended] := by
  unfold run
  rw [same]
  cases o with
  | nothing =>
      cases answers 0 with
      | accepted => exact ⟨_, .success, rfl⟩
      | rejected => exact ⟨_, .failure noMethodReason, rfl⟩
      | failed reason => exact ⟨_, .failure reason, rfl⟩
  | method m =>
      simp only [Identity.methodsFor, List.isEmpty_cons, Account.tryMethods_cons]
      cases answers 0 with
      | accepted => exact ⟨_, .success, rfl⟩
      | rejected => exact ⟨_, .failure rejectedReason, rfl⟩
      | failed reason => exact ⟨_, .failure reason, rfl⟩

end Login

/-! ## The login part of a connection -/

namespace Connection

variable {i : Identity} {gateway : String} {p : Peer} {events : List Event} {e : TunnelError}

theorem auth_withEnd (failed : Bool) :
    (withEnd gateway p failed events).filter Event.isAuth = events.filter Event.isAuth := by
  obtain ⟨front, back, rfl, same | more⟩ := withEnd_cases gateway p failed events
  · rw [same]
  · simp [more, closed, Event.isAuth]

theorem auth_login : (login i gateway p).2.filter Event.isAuth =
    (Login.run i gateway p.answers).2.map .ofLogin := by
  have all : ((Login.run i gateway p.answers).2.map Event.ofLogin).filter Event.isAuth =
      (Login.run i gateway p.answers).2.map .ofLogin := by
    refine List.filter_eq_self.2 fun event member => ?_
    obtain ⟨inner, inLogin, rfl⟩ := List.mem_map.1 member
    rw [Event.isAuth_ofLogin]
    exact Login.isAuth_run inner inLogin
  unfold login
  cases result : (Login.run i gateway p.answers).1 with
  | ok u =>
      simp only [result, auth_withEnd, List.filter_append, all]
      exact List.append_nil _
  | error e => simp only [result, auth_withEnd, all]

def Opened (i : Identity) (gateway : String) (p : Peer) : Prop :=
  p.exchange.outcome (fun key => (i.verifier.verify gateway key).result) = .ok ()

theorem auth_of_opened (opened : Opened i gateway p) : (run i gateway p).2.filter Event.isAuth =
    (Login.run i gateway p.answers).2.map .ofLogin := by
  have whole : (run i gateway p).2 = reports i gateway p ++ (login i gateway p).2 := by
    unfold Opened at opened
    simp only [run, verdict, opened, reports]
  have quiet : (reports i gateway p).filter Event.isAuth = [] := by
    refine List.filter_eq_nil_iff.2 fun event member => ?_
    obtain ⟨t, rfl⟩ := reported_of_mem member
    exact Bool.false_ne_true
  rw [whole, List.filter_append, quiet, List.nil_append, auth_login]

theorem auth_of_unopened (unopened : ¬Opened i gateway p) :
    (run i gateway p).2.filter Event.isAuth = [] := by
  unfold Opened at unopened
  cases ended : p.exchange.outcome fun key => (i.verifier.verify gateway key).result with
  | ok u => exact absurd ended unopened
  | error e =>
      rw [run_of_failed ended, List.filter_eq_nil_iff]
      exact fun event member => by simp [isAuth_of_unopened member]

end Connection

/-! ## What is offered -/

namespace Identity

open Connection (Event Opened)

variable {password privateKey : Option String} {name : String} {o : Login.Offer}

theorem Chosen.name_eq (chosen : Chosen password privateKey name o) : o.name = name := by
  cases chosen <;> rfl

/-- A private key that the passphrase does not open fails the resolution, and only then does a line of
the list that is neither blank nor an entry. Otherwise a connection to any gateway makes one attempt if
the exchange of keys ended well, and none if it did not: with the private key if one is given, else with
the password, else without credentials. -/
theorem one_credential_offered (user : String) (password privateKey : Option String) (keys : String) :
    ((∃ reason, resolve user password privateKey keys = .error (.invalidPrivateKey reason)) ↔
      ∃ text, Given privateKey text ∧ ∀ k, ¬AuthMethod.Opens text (kept password) k) ∧
    ((∃ number reason,
        resolve user password privateKey keys = .error (.invalidPublicKey number reason)) ↔
      (∀ text, Given privateKey text → ∃ k, AuthMethod.Opens text (kept password) k) ∧
        ∃ line ∈ Text.lines keys.toList, Text.trimmed line ≠ [] ∧
          ∀ k, ¬AuthorizedKeys.IsEntry line k) ∧
    (∀ e, resolve user password privateKey keys = .error e →
      (∃ reason, e = .invalidPrivateKey reason) ∨ ∃ number reason, e = .invalidPublicKey number reason) ∧
    ∀ i, resolve user password privateKey keys = .ok i →
      ∃ name o, Chosen password privateKey name o ∧ ∀ gateway p,
        (¬Opened i gateway p → (Connection.run i gateway p).2.filter Event.isAuth = []) ∧
        (Opened i gateway p → ∃ ended, Login.Ends ⟨gateway, i.username⟩ name ended ∧
          (Connection.run i gateway p).2.filter Event.isAuth =
            [.logged (.authAttempt gateway i.username name), .offered o, .logged ended]) := by
  refine ⟨invalidPrivateKey_iff, invalidPublicKey_iff, fun e => keyFault_of_resolve, fun i resolved => ?_⟩
  obtain ⟨name, o, v, chosen, -, rfl⟩ := exists_parts_of_resolve resolved
  refine ⟨name, o, chosen, fun gateway p => ⟨Connection.auth_of_unopened, fun opened => ?_⟩⟩
  obtain ⟨ended, ends, events⟩ := Login.run_single (i := ofParts user (methodsFor o) v) rfl
  rw [chosen.name_eq] at ends events
  refine ⟨ended, ends, ?_⟩
  rw [Connection.auth_of_opened opened, events]
  rfl

end Identity

end GatewayTunnel
