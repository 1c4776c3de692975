import GatewayTunnel.Proofs.Run
import GatewayTunnel.Transport

namespace GatewayTunnel.Transport

variable {s s' : State} {a : Action} {as : List Action} {es : List Event}

inductive Transition (s : State) : Action → State → List Event → Prop where
  | arrived {c : CallId} : s.calls c = .absent → Transition s (.arrive c) (s.move c .entered) []
  /-- Somebody else has asked for the end. -/
  | late {c : CallId} : s.calls c = .entered → s.closeRequested = true →
      Transition s (.proceed c) (s.move c (.done (.ok ()))) [.returned c (.ok ())]
  | flagged {c : CallId} : s.calls c = .entered → s.closeRequested = false →
      Transition s (.proceed c) ({ s with closeRequested := true }.move c .flagged) []
  /-- The transport has ended by itself. -/
  | outlived {c : CallId} : s.calls c = .flagged → s.isClosed = true →
      Transition s (.proceed c) (s.move c (.done (.ok ()))) [.returned c (.ok ())]
  | willing {c : CallId} : s.calls c = .flagged → s.isClosed = false →
      Transition s (.proceed c) (s.move c .willing) []
  | asked {c : CallId} : s.calls c = .willing →
      Transition s (.proceed c) (s.move c .disconnecting) [.disconnectAsked c]
  | disconnected {c : CallId} {r : Except SessionFailure Unit} : s.calls c = .disconnecting →
      Transition s (.disconnectEnded c r) (s.move c (.done (r.mapError SessionFailure.toError)))
        [.returned c (r.mapError SessionFailure.toError)]
  | ended : s.sessionEnded = false → Transition s .endSession { s with sessionEnded := true } []
  | dropped : s.handlerGone = false →
      Transition s .dropHandler { s with handlerGone := true }
        [.logged (.transportClosed s.gateway s.closeRequested)]

theorem Transition.of_step (h : step s a = some (s', es)) : Transition s a s' es := by
  cases a with
  | arrive c =>
      simp only [step] at h
      split at h <;> cases h
      exact .arrived ‹_›
  | proceed c =>
      simp only [step] at h
      split at h
      · split at h <;> cases h
        · exact .late ‹_› ‹_›
        · exact .flagged ‹_› (eq_false_of_ne_true ‹_›)
      · split at h <;> cases h
        · exact .outlived ‹_› ‹_›
        · exact .willing ‹_› (eq_false_of_ne_true ‹_›)
      · cases h
        exact .asked ‹_›
      · cases h
  | disconnectEnded c r =>
      simp only [step] at h
      split at h <;> cases h
      exact .disconnected ‹_›
  | endSession =>
      simp only [step] at h
      split at h <;> cases h
      exact .ended (eq_false_of_ne_true ‹_›)
  | dropHandler =>
      simp only [step] at h
      split at h <;> cases h
      exact .dropped (eq_false_of_ne_true ‹_›)

theorem run_iff : run s as = some (s', es) ↔ Reaches step s as s' es :=
  reaches_iff (fun _ => rfl) fun s a as => by
    simp only [run, Option.bind_eq_bind, Option.map_eq_bind]
    rfl

def Event.logged? : Event → Option AuditEvent
  | logged e => some e
  | _ => none

theorem Transition.records (h : Transition s a s' es) : s'.gateway = s.gateway ∧
    ((es.filterMap Event.logged? = [] ∧ s'.handlerGone = s.handlerGone) ∨
      (es.filterMap Event.logged? = [.transportClosed s.gateway s.closeRequested] ∧
        s.handlerGone = false ∧ s'.handlerGone = true)) := by
  cases h with
  | dropped there => exact ⟨rfl, .inr ⟨rfl, there, rfl⟩⟩
  | _ => exact ⟨rfl, .inl ⟨rfl, rfl⟩⟩

end GatewayTunnel.Transport
