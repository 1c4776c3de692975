import GatewayTunnel.Proofs.Transport.Transition
import GatewayTunnel.Trail

namespace GatewayTunnel.Trail

variable {s s' : State} {a : Action} {as : List Action} {es fs : List Event} {n m : ConnectionId}
  {phase : Phase}

inductive Transition (s : State) : Action → State → List Event → Prop where
  | connect {n : ConnectionId} {c : Connector} {p : Connection.Peer} : s n = .absent →
      Transition s (.connect n c p) (s.move n (.connecting (c.records p) (c.outcome p))) []
  | recorded {n : ConnectionId} {e : AuditEvent} {rest : List AuditEvent}
      {r : Except TunnelError Transport.State} : s n = .connecting (e :: rest) r →
      Transition s (.proceed n) (s.move n (.connecting rest r)) [.recorded n e]
  | works {n : ConnectionId} {t : Transport.State} : s n = .connecting [] (.ok t) →
      Transition s (.proceed n) (s.move n (.connected t)) [.returned n (.ok ())]
  | fails {n : ConnectionId} {e : TunnelError} : s n = .connecting [] (.error e) →
      Transition s (.proceed n) (s.move n (.failed e)) [.returned n (.error e)]
  | moved {n : ConnectionId} {t t' : Transport.State} {a : Transport.Action}
      {es : List Transport.Event} : s n = .connected t → Transport.step t a = some (t', es) →
      Transition s (.transport n a) (s.move n (.connected t')) (es.map (.ofTransport n))

theorem Transition.of_step (h : step s a = some (s', es)) : Transition s a s' es := by
  cases a with
  | connect n c p =>
      simp only [step] at h
      split at h <;> cases h
      exact .connect ‹_›
  | proceed n =>
      simp only [step] at h
      split at h <;> cases h
      · exact .recorded ‹_›
      · exact .works ‹_›
      · exact .fails ‹_›
  | transport n a =>
      simp only [step] at h
      split at h
      · obtain ⟨⟨t', events⟩, moved, same⟩ := Option.map_eq_some_iff.1 h
        cases same
        exact .moved ‹_› moved
      · cases h

theorem run_iff : run s as = some (s', es) ↔ Reaches step s as s' es :=
  reaches_iff (fun _ => rfl) fun s a as => by
    simp only [run, Option.bind_eq_bind, Option.map_eq_bind]
    rfl

@[simp] theorem State.move_self : s.move n phase n = phase := if_pos rfl

theorem State.move_other (other : m ≠ n) : s.move n phase m = s m := if_neg other

/-! ## Records -/

theorem log_append : log n (es ++ fs) = log n es ++ log n fs :=
  List.filterMap_append

theorem log_ofTransport {events : List Transport.Event} :
    log n (events.map (.ofTransport n)) = events.filterMap Transport.Event.logged? := by
  rw [log, List.filterMap_map]
  congr 1
  funext e
  cases e <;> simp [Event.ofTransport, Transport.Event.logged?]

theorem log_ofTransport_other {events : List Transport.Event} (other : m ≠ n) :
    log m (events.map (.ofTransport n)) = [] := by
  rw [log, List.filterMap_map, List.filterMap_eq_nil_iff]
  intro e _
  cases e <;> simp [Event.ofTransport, other.symm]

def Action.about : Action → ConnectionId
  | .connect n _ _ | .proceed n | .transport n _ => n

theorem Transition.other (h : Transition s a s' es) (other : m ≠ a.about) :
    s' m = s m ∧ log m es = [] := by
  cases h with
  | connect | works | fails => exact ⟨State.move_other other, rfl⟩
  | @recorded n =>
      have different : n ≠ m := Ne.symm other
      exact ⟨State.move_other other, by simp [log, different]⟩
  | moved => exact ⟨State.move_other other, log_ofTransport_other other⟩

end GatewayTunnel.Trail
