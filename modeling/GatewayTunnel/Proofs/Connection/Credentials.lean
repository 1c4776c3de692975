import GatewayTunnel.Connection
import GatewayTunnel.Proofs.HostKey.Pinning
import GatewayTunnel.Proofs.Login.Attempts

namespace GatewayTunnel.Connection

open Login (Offer Answer offersOf)

variable {i : Identity} {gateway : String} {p : Peer} {key : PublicKey}
  {check : PublicKey → Except TunnelError Unit} {e : TunnelError} {events : List Event}

/-! ## The exchange of keys -/

namespace KeyExchange

/-- What is known about an exchange of keys, of which only the presented key and the end are seen. -/
structure Guarded (check : PublicKey → Except TunnelError Unit) (shown : Option PublicKey)
    (ended : Except TunnelError Unit) : Prop where
  asks : ended = .ok () → ∃ key, shown = some key ∧ check key = .ok ()
  refuses : ∀ key e, shown = some key → check key = .error e → ended = .error e
  /-- Other failures are failures of the session. -/
  fails : ∀ e, ended = .error e → (∀ key, shown = some key → check key = .ok ()) →
    ∃ f, e = SessionFailure.toError f

section

variable {rest : Except SessionFailure Unit}

theorem outcome_of_refused (refused : check key = .error e) :
    (presented key rest).outcome check = .error e := by
  simp [outcome, refused, bind, Except.bind]

theorem outcome_of_accepted (accepted : check key = .ok ()) :
    (presented key rest).outcome check = rest.mapError SessionFailure.toError := by
  simp [outcome, accepted, bind, Except.bind]

end

theorem guarded (x : KeyExchange) (check : PublicKey → Except TunnelError Unit) :
    Guarded check x.key? (x.outcome check) := by
  cases x with
  | failed f =>
      refine ⟨nofun, ?_, fun e failed _ => ⟨f, ?_⟩⟩
      · rintro _ _ ⟨⟩
      · cases failed
        rfl
  | presented key rest =>
      cases said : check key with
      | error e =>
          rw [outcome_of_refused said]
          refine ⟨nofun, ?_, fun _ _ accepted => ?_⟩
          · rintro _ e' ⟨⟩ refused
            rw [← said, refused]
          · rw [accepted key rfl] at said
            cases said
      | ok u =>
          rw [outcome_of_accepted said]
          refine ⟨fun _ => ⟨key, rfl, said⟩, ?_, fun e failed _ => ?_⟩
          · rintro _ e' ⟨⟩ refused
            rw [said] at refused
            cases refused
          · cases rest with
            | ok u => cases failed
            | error f =>
                cases failed
                exact ⟨f, rfl⟩

/-- Nothing else is assumed about an exchange of keys. -/
theorem exists_of_guarded {shown : Option PublicKey} {ended : Except TunnelError Unit}
    (guarded : Guarded check shown ended) :
    ∃ x : KeyExchange, x.key? = shown ∧ x.outcome check = ended := by
  cases shown with
  | none =>
      cases ended with
      | ok u =>
          obtain ⟨key, shown, -⟩ := guarded.asks rfl
          cases shown
      | error e =>
          obtain ⟨f, rfl⟩ := guarded.fails e rfl (by rintro _ ⟨⟩)
          exact ⟨failed f, rfl, rfl⟩
  | some key =>
      cases said : check key with
      | error e =>
          rw [guarded.refuses key e rfl said]
          exact ⟨presented key (.ok ()), rfl, outcome_of_refused said⟩
      | ok u =>
          cases ended with
          | ok u => exact ⟨presented key (.ok ()), rfl, outcome_of_accepted said⟩
          | error e =>
              obtain ⟨f, rfl⟩ := guarded.fails e rfl fun _ shown => Option.some.inj shown ▸ said
              exact ⟨presented key (.error f), rfl, outcome_of_accepted said⟩

end KeyExchange

/-! ## What happens during a connection -/

def Trusted (i : Identity) (gateway : String) (p : Peer) : Prop :=
  ∃ key, p.exchange.key? = some key ∧ (i.verifier.verify gateway key).result = .ok ()

namespace Event

def offer? : Event → Option Offer
  | offered o => some o
  | _ => none

def isAuth : Event → Bool
  | logged (.authAttempt ..) | logged (.authSuccess ..) | logged (.authFailure ..) | offered _ => true
  | _ => false

def isEstablished : Event → Bool
  | logged (.transportEstablished ..) => true
  | _ => false

theorem isAuth_ofLogin (e : Login.Event) : (ofLogin e).isAuth = e.isAuth := by
  cases e with
  | logged e => cases e <;> rfl
  | offered o => rfl

theorem offer?_ofLogin (e : Login.Event) : (ofLogin e).offer? = e.offer? := by
  cases e <;> rfl

theorem isEstablished_of_isAuth {e : Event} (auth : e.isAuth = true) : e.isEstablished = false := by
  cases e with
  | logged e => cases e <;> simp_all [isAuth, isEstablished]
  | _ => rfl

end Event

def offers (events : List Event) : List Offer :=
  events.filterMap Event.offer?

@[simp] theorem offers_append (es fs : List Event) : offers (es ++ fs) = offers es ++ offers fs :=
  List.filterMap_append

theorem offers_map_ofLogin (es : List Login.Event) : offers (es.map .ofLogin) = Login.offers es := by
  simp only [offers, Login.offers, List.filterMap_map]
  congr 1
  funext e
  exact Event.offer?_ofLogin e

theorem withEnd_cases (gateway : String) (p : Peer) (failed : Bool) (events : List Event) :
    ∃ front back, events = front ++ back ∧ (withEnd gateway p failed events = front ++ back ∨
      withEnd gateway p failed events = front ++ closed gateway :: back) := by
  have last : ∃ front back, events = front ++ back ∧
      ((if failed then events ++ [closed gateway] else events) = front ++ back ∨
        (if failed then events ++ [closed gateway] else events) = front ++ closed gateway :: back) :=
    ⟨events, [], by simp, by cases failed <;> simp⟩
  unfold withEnd
  split
  · rename_i n _
    split
    · exact ⟨events.take n, events.drop n, by simp, .inr rfl⟩
    · exact last
  · exact last

theorem offers_withEnd (failed : Bool) : offers (withEnd gateway p failed events) = offers events := by
  obtain ⟨front, back, rfl, same | more⟩ := withEnd_cases gateway p failed events
  · rw [same]
  · rw [more, offers_append, offers_append]
    rfl

theorem established_withEnd (failed : Bool) :
    (withEnd gateway p failed events).filter Event.isEstablished =
      events.filter Event.isEstablished := by
  obtain ⟨front, back, rfl, same | more⟩ := withEnd_cases gateway p failed events
  · rw [same]
  · simp [more, closed, Event.isEstablished]

/-! ## Logging in -/

theorem login_result : (login i gateway p).1 = (Login.run i gateway p.answers).1 := by
  unfold login
  cases result : (Login.run i gateway p.answers).1 <;> simp [result]

theorem offers_login :
    offers (login i gateway p).2 = Login.offers (Login.run i gateway p.answers).2 := by
  unfold login
  cases result : (Login.run i gateway p.answers).1 with
  | ok u =>
      simp only [result, offers_withEnd]
      rw [offers_append, offers_map_ofLogin]
      exact List.append_nil _
  | error e => simp only [result, offers_withEnd, offers_map_ofLogin]

theorem established_map_ofLogin :
    ((Login.run i gateway p.answers).2.map Event.ofLogin).filter Event.isEstablished = [] := by
  rw [List.filter_eq_nil_iff]
  intro e mem
  obtain ⟨e', mem', rfl⟩ := List.mem_map.1 mem
  have auth : (Event.ofLogin e').isAuth = true := by
    rw [Event.isAuth_ofLogin]
    exact Login.isAuth_run e' mem'
  simp [Event.isEstablished_of_isAuth auth]

theorem established_login : (login i gateway p).2.filter Event.isEstablished =
    match (login i gateway p).1 with
    | .ok () => [.logged (.transportEstablished gateway i.username)]
    | .error _ => [] := by
  rw [login_result]
  unfold login
  cases result : (Login.run i gateway p.answers).1 with
  | ok u =>
      simp only [result, established_withEnd, List.filter_append, established_map_ofLogin]
      rfl
  | error e => simp only [result, established_withEnd, established_map_ofLogin]

/-! ## Connecting -/

def reports (i : Identity) (gateway : String) (p : Peer) : List Event :=
  p.exchange.key?.toList.flatMap fun key => (verdict i gateway key).events.map .reported

theorem reported_of_mem {event : Event} (mem : event ∈ reports i gateway p) :
    ∃ t, event = .reported t := by
  obtain ⟨key, -, mem⟩ := List.mem_flatMap.1 mem
  obtain ⟨t, -, same⟩ := List.mem_map.1 mem
  exact ⟨t, same.symm⟩

theorem offers_reports : offers (reports i gateway p) = [] := by
  rw [offers, List.filterMap_eq_nil_iff]
  intro event mem
  obtain ⟨t, rfl⟩ := reported_of_mem mem
  rfl

theorem established_reports : (reports i gateway p).filter Event.isEstablished = [] := by
  rw [List.filter_eq_nil_iff]
  intro event mem
  obtain ⟨t, rfl⟩ := reported_of_mem mem
  exact Bool.false_ne_true

theorem offers_unopened : offers (reports i gateway p ++ [closed gateway]) = [] := by
  rw [offers_append, offers_reports]
  rfl

theorem offers_opened : offers (reports i gateway p ++ (login i gateway p).2) =
    Login.offers (Login.run i gateway p.answers).2 := by
  rw [offers_append, offers_reports, offers_login, List.nil_append]

theorem isAuth_of_unopened {event : Event} (mem : event ∈ reports i gateway p ++ [closed gateway]) :
    event.isAuth = false := by
  rcases List.mem_append.1 mem with reported | last
  · obtain ⟨t, rfl⟩ := reported_of_mem reported
    rfl
  · rw [List.mem_singleton.1 last]
    rfl

theorem run_of_failed
    (failed : p.exchange.outcome (fun key => (i.verifier.verify gateway key).result) = .error e) :
    run i gateway p = (.error (beforeLogin e), reports i gateway p ++ [closed gateway]) := by
  simp only [run, verdict, failed, reports]

theorem run_cases (i : Identity) (gateway : String) (p : Peer) :
    (∃ e, p.exchange.outcome (fun key => (i.verifier.verify gateway key).result) = .error e ∧
      run i gateway p = (.error (beforeLogin e), reports i gateway p ++ [closed gateway])) ∨
    (Trusted i gateway p ∧
      run i gateway p = ((login i gateway p).1, reports i gateway p ++ (login i gateway p).2)) := by
  cases ended : p.exchange.outcome fun key => (i.verifier.verify gateway key).result with
  | error e => exact .inl ⟨e, rfl, run_of_failed ended⟩
  | ok u =>
      refine .inr ⟨(p.exchange.guarded _).asks ended, ?_⟩
      simp only [run, verdict, ended, reports]

theorem trust_of_refused (refused : (i.verifier.verify gateway key).result = .error e) :
    ∃ reason, e = .trust reason := by
  rcases i.verifier.verify_cases gateway key with ⟨-, verdict⟩ | ⟨-, -, verdict⟩ |
    ⟨-, -, verdict⟩
  · simp [verdict] at refused
  · simp [verdict] at refused
  · rw [verdict] at refused
    cases refused
    exact ⟨_, rfl⟩

theorem run_ok_iff : (run i gateway p).1 = .ok () ↔
    Trusted i gateway p ∧ ∃ k < (offers (run i gateway p).2).length, p.answers k = .accepted := by
  rcases run_cases i gateway p with ⟨e, -, ended⟩ | ⟨trusted, ended⟩
  · rw [ended, offers_unopened]
    simp
  · rw [ended, offers_opened, login_result, Login.run_ok_iff]
    simp [trusted]

theorem established_run : (run i gateway p).2.filter Event.isEstablished =
    match (run i gateway p).1 with
    | .ok () => [.logged (.transportEstablished gateway i.username)]
    | .error _ => [] := by
  rcases run_cases i gateway p with ⟨e, -, ended⟩ | ⟨-, ended⟩
  · rw [ended, List.filter_append, established_reports]
    rfl
  · rw [ended, List.filter_append, established_reports, List.nil_append, established_login]

/-- Nothing is offered to a gateway before its host key was verified. A refused key fails the connection
with the refusal itself, every other failure before the login is one of authentication, and neither
leaves a trace of a login. A connection works, and is recorded as one transport, exactly if the key was
accepted and one of the attempts was. -/
theorem credentials_guarded (i : Identity) (gateway : String) (p : Peer) :
    (∀ event ∈ (run i gateway p).2, event.isAuth = true → Trusted i gateway p) ∧
    (∀ key e, p.exchange.key? = some key → (i.verifier.verify gateway key).result = .error e →
      (∃ reason, e = .trust reason) ∧ (run i gateway p).1 = .error e ∧
        ∀ event ∈ (run i gateway p).2, event.isAuth = false) ∧
    (∀ e, p.exchange.outcome (fun key => (i.verifier.verify gateway key).result) = .error e →
      (∀ key, p.exchange.key? = some key → (i.verifier.verify gateway key).result = .ok ()) →
      (run i gateway p).1 = .error (.auth e.message) ∧
        ∀ event ∈ (run i gateway p).2, event.isAuth = false) ∧
    offers (run i gateway p).2 <+: offersOf i ∧
    ((run i gateway p).1 = .ok () ∧
        (run i gateway p).2.filter Event.isEstablished =
          [.logged (.transportEstablished gateway i.username)] ↔
      Trusted i gateway p ∧
        ∃ k < (offers (run i gateway p).2).length, p.answers k = .accepted) ∧
    ((run i gateway p).1 ≠ .ok () → (run i gateway p).2.filter Event.isEstablished = []) := by
  have failed : ∀ e, p.exchange.outcome (fun key => (i.verifier.verify gateway key).result) = .error e →
      (run i gateway p).1 = .error (beforeLogin e) ∧
        ∀ event ∈ (run i gateway p).2, event.isAuth = false := by
    intro e failed
    rw [run_of_failed failed]
    exact ⟨rfl, fun event mem => isAuth_of_unopened mem⟩
  refine ⟨fun event mem auth => ?_, fun key e shown refused => ?_, fun e failure accepted => ?_, ?_,
    ?_, fun fails => ?_⟩
  · rcases run_cases i gateway p with ⟨e, failure, -⟩ | ⟨trusted, -⟩
    · rw [(failed e failure).2 event mem] at auth
      cases auth
    · exact trusted
  · obtain ⟨reason, rfl⟩ := trust_of_refused refused
    exact ⟨⟨reason, rfl⟩, failed _ ((p.exchange.guarded _).refuses key _ shown refused)⟩
  · obtain ⟨f, rfl⟩ := (p.exchange.guarded _).fails e failure accepted
    exact failed _ failure
  · rcases run_cases i gateway p with ⟨e, -, ended⟩ | ⟨-, ended⟩
    · rw [ended, offers_unopened]
      exact List.nil_prefix
    · rw [ended, offers_opened]
      exact Login.offers_run
  · rw [← run_ok_iff]
    exact ⟨fun ok => ok.1, fun ok => ⟨ok, by rw [established_run, ok]⟩⟩
  · rw [established_run]
    cases result : (run i gateway p).1 with
    | ok u => exact absurd result fails
    | error e => rfl

end GatewayTunnel.Connection
