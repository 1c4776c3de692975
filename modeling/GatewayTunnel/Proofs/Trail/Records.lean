import GatewayTunnel.Proofs.Connection.Credentials
import GatewayTunnel.Trail

namespace GatewayTunnel

def AuditEvent.isEstablished : AuditEvent → Bool
  | .transportEstablished .. => true
  | _ => false

def AuditEvent.isClosed : AuditEvent → Bool
  | .transportClosed .. => true
  | _ => false

namespace Connection

variable {i : Identity} {gateway : String} {p : Peer} {events : List Event} {e : TunnelError}

def Event.isClosed : Event → Bool
  | logged e => e.isClosed
  | _ => false

theorem Event.isClosed_of_isAuth {e : Event} (auth : e.isAuth = true) : e.isClosed = false := by
  cases e with
  | logged e => cases e <;> simp_all [isAuth, isClosed, AuditEvent.isClosed]
  | _ => rfl

theorem closed_map_ofLogin :
    ((Login.run i gateway p.answers).2.map Event.ofLogin).filter Event.isClosed = [] := by
  rw [List.filter_eq_nil_iff]
  intro e mem
  obtain ⟨e', mem', rfl⟩ := List.mem_map.1 mem
  have auth : (Event.ofLogin e').isAuth = true := by
    rw [Event.isAuth_ofLogin]
    exact Login.isAuth_run e' mem'
  simp [Event.isClosed_of_isAuth auth]

theorem closed_reports : (reports i gateway p).filter Event.isClosed = [] := by
  rw [List.filter_eq_nil_iff]
  intro event mem
  obtain ⟨t, rfl⟩ := reported_of_mem mem
  exact Bool.false_ne_true

theorem closed_withEnd (gateway : String) (p : Peer) (failed : Bool)
    (none : events.filter Event.isClosed = []) :
    (withEnd gateway p failed events).filter Event.isClosed = [closed gateway] ∨
      (withEnd gateway p failed events).filter Event.isClosed = [] ∧ failed = false := by
  have last : (if failed then events ++ [closed gateway] else events).filter Event.isClosed =
      [closed gateway] ∨
      (if failed then events ++ [closed gateway] else events).filter Event.isClosed = [] ∧
        failed = false := by
    cases failed with
    | true =>
        left
        rw [if_pos rfl, List.filter_append, none]
        rfl
    | false => exact .inr ⟨none, rfl⟩
  unfold withEnd
  split
  · rename_i n _
    split
    · left
      rw [← List.take_append_drop n events, List.filter_append] at none
      obtain ⟨before, after⟩ := List.append_eq_nil_iff.1 none
      rw [List.filter_append, before, List.filter_cons_of_pos rfl, after]
      rfl
    · exact last
  · exact last

theorem closed_login : (login i gateway p).2.filter Event.isClosed = [closed gateway] ∨
    (login i gateway p).2.filter Event.isClosed = [] ∧ (login i gateway p).1 = .ok () := by
  rw [login_result]
  unfold login
  cases result : (Login.run i gateway p.answers).1 with
  | ok u =>
      simp only [result]
      have none : ((Login.run i gateway p.answers).2.map Event.ofLogin ++
          [Event.logged (.transportEstablished gateway i.username)]).filter Event.isClosed = [] := by
        rw [List.filter_append, closed_map_ofLogin]
        rfl
      rcases closed_withEnd gateway p false none with ended | ⟨lasting, -⟩
      · exact .inl ended
      · exact .inr ⟨lasting, trivial⟩
  | error e =>
      simp only [result]
      rcases closed_withEnd gateway p true closed_map_ofLogin with ended | ⟨-, failed⟩
      · exact .inl ended
      · cases failed

theorem closed_run (i : Identity) (gateway : String) (p : Peer) : (run i gateway p).2.filter Event.isClosed = [closed gateway] ∨
    (run i gateway p).2.filter Event.isClosed = [] ∧ (run i gateway p).1 = .ok () := by
  rcases run_cases i gateway p with ⟨e, -, ended⟩ | ⟨-, ended⟩
  · left
    rw [ended, List.filter_append, closed_reports]
    rfl
  · rw [ended, List.filter_append, closed_reports, List.nil_append]
    exact closed_login

theorem filter_log? {observes : Bool} (mark : AuditEvent → Bool) (marked : Event → Bool)
    (logs : ∀ e, marked (.logged e) = mark e) (reported : ∀ t, marked (.reported t) = false)
    (trust : ∀ t, mark (.ofTrust t) = false) :
    (events.filterMap (Event.log? observes)).filter mark =
      (events.filter marked).filterMap (Event.log? observes) := by
  rw [List.filter_filterMap, List.filterMap_filter]
  congr 1
  funext x
  cases x with
  | reported t => cases observes <;> simp [Event.log?, reported, trust]
  | logged e => cases same : mark e <;> simp [Event.log?, logs, same]
  | offered o => cases marked (.offered o) <;> rfl

end Connection

namespace Trail.Connector

open Connection (closed)

variable {c : Connector} {p : Connection.Peer} {e : TunnelError}

theorem established_records : (c.records p).filter AuditEvent.isEstablished =
    match (c.run p).1 with
    | .ok () => [.transportEstablished c.gateway c.identity.username]
    | .error _ => [] := by
  rw [records, Connection.filter_log? _ Connection.Event.isEstablished, run,
    Connection.established_run]
  · cases (Connection.run c.identity c.gateway p).1 <;> rfl
  · intro e
    cases e <;> rfl
  · exact fun _ => rfl
  · intro t
    cases t <;> rfl

theorem endsEarly_of_closed
    (ended : (c.run p).2.filter Connection.Event.isClosed = [closed c.gateway]) :
    c.endsEarly p = true := by
  have mem : closed c.gateway ∈ (c.run p).2.filter Connection.Event.isClosed := by
    rw [ended]
    exact List.mem_singleton_self _
  exact decide_eq_true (List.mem_filter.1 mem).1

theorem closed_records : (c.records p).filter AuditEvent.isClosed =
    if c.endsEarly p then [.transportClosed c.gateway false] else [] := by
  rw [records, Connection.filter_log? AuditEvent.isClosed Connection.Event.isClosed (fun _ => rfl)
    (fun _ => rfl) (by rintro (_ | _) <;> rfl)]
  rcases Connection.closed_run c.identity c.gateway p with ended | ⟨lasting, -⟩
  · rw [endsEarly_of_closed ended, run, ended]
    rfl
  · have late : c.endsEarly p = false := by
      refine decide_eq_false fun mem => ?_
      exact absurd (List.mem_filter.2 ⟨mem, rfl⟩) (by rw [run, lasting]; exact List.not_mem_nil)
    rw [run, lasting, late]
    rfl

theorem endsEarly_of_failed (failed : (c.run p).1 = .error e) : c.endsEarly p = true := by
  rcases Connection.closed_run c.identity c.gateway p with ended | ⟨-, works⟩
  · exact endsEarly_of_closed ended
  · rw [run, works] at failed
    cases failed

theorem outcome_eq_ok_iff {t : Transport.State} :
    c.outcome p = .ok t ↔ (c.run p).1 = .ok () ∧ c.transport p = t := by
  unfold outcome
  cases (c.run p).1 <;> simp [Except.map]

theorem outcome_eq_error_iff : c.outcome p = .error e ↔ (c.run p).1 = .error e := by
  unfold outcome
  cases (c.run p).1 <;> simp [Except.map]

end Trail.Connector

end GatewayTunnel
