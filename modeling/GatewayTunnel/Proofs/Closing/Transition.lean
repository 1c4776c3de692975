import GatewayTunnel.Closing
import GatewayTunnel.Proofs.Transport.Transition

namespace GatewayTunnel.Closing

open Transport (CallId Action Event)

variable {s s' : State} {a : Action} {as : List Action} {es : List Event} {c : CallId}

inductive Transition (s : State) : Action → State → List Event → Prop where
  | arrived {c : CallId} : s.calls c = .absent → Transition s (.arrive c) (s.move c .entered) []
  /-- Somebody else has asked for the end. -/
  | late {c : CallId} : s.calls c = .entered → s.closeRequested = true →
      Transition s (.proceed c) (s.move c (.done (.ok ()))) [.returned c (.ok ())]
  | flagged {c : CallId} : s.calls c = .entered → s.closeRequested = false →
      Transition s (.proceed c) ({ s with closeRequested := true }.move c .flagged) []
  /-- The handler is gone. -/
  | deserted {c : CallId} : s.calls c = .flagged → s.handler.isNoticed = true →
      Transition s (.proceed c) (s.move c (.done (.ok ()))) [.returned c (.ok ())]
  | unnoticed {c : CallId} : s.calls c = .flagged → s.handler.isNoticed = false →
      Transition s (.proceed c) (s.move c .unnoticed) []
  /-- The session has ended. -/
  | outlived {c : CallId} : s.calls c = .unnoticed → s.sessionEnded = true →
      Transition s (.proceed c) (s.move c (.done (.ok ()))) [.returned c (.ok ())]
  | willing {c : CallId} : s.calls c = .unnoticed → s.sessionEnded = false →
      Transition s (.proceed c) (s.move c .willing) []
  | asked {c : CallId} : s.calls c = .willing →
      Transition s (.proceed c) (s.move c .disconnecting) [.disconnectAsked c]
  | disconnected {c : CallId} {r : Except SessionFailure Unit} : s.calls c = .disconnecting →
      Transition s (.disconnectEnded c r) (s.move c (.done (r.mapError SessionFailure.toError)))
        [.returned c (r.mapError SessionFailure.toError)]
  | ended : s.sessionEnded = false → Transition s .endSession { s with sessionEnded := true } []
  | going : s.handler = .alive →
      Transition s .dropHandler { s with handler := .going s.closeRequested } []
  | noticed {byClient : Bool} : s.handler = .going byClient →
      Transition s .dropHandler { s with handler := .noticed byClient } []
  | recorded {byClient : Bool} : s.handler = .noticed byClient →
      Transition s .dropHandler { s with handler := .gone }
        [.logged (.transportClosed s.gateway byClient)]

theorem Transition.of_step (h : step s a = some (s', es)) : Transition s a s' es := by
  cases a with
  | arrive c =>
      simp only [step] at h
      split at h <;> cases h
      exact .arrived ‹_›
  | proceed c =>
      simp only [step] at h
      split at h
      · split at h <;> cases h
        · exact .late ‹_› ‹_›
        · exact .flagged ‹_› (eq_false_of_ne_true ‹_›)
      · split at h <;> cases h
        · exact .deserted ‹_› ‹_›
        · exact .unnoticed ‹_› (eq_false_of_ne_true ‹_›)
      · split at h <;> cases h
        · exact .outlived ‹_› ‹_›
        · exact .willing ‹_› (eq_false_of_ne_true ‹_›)
      · cases h
        exact .asked ‹_›
      · cases h
  | disconnectEnded c r =>
      simp only [step] at h
      split at h <;> cases h
      exact .disconnected ‹_›
  | endSession =>
      simp only [step] at h
      split at h <;> cases h
      exact .ended (eq_false_of_ne_true ‹_›)
  | dropHandler =>
      simp only [step] at h
      split at h <;> cases h
      · exact .going ‹_›
      · exact .noticed ‹_›
      · exact .recorded ‹_›

theorem run_iff : run s as = some (s', es) ↔ Reaches step s as s' es :=
  reaches_iff (fun _ => rfl) fun s a as => by
    simp only [run, Option.bind_eq_bind, Option.map_eq_bind]
    rfl

variable {phase phase' : Phase}

@[simp] theorem State.move_self : (s.move c phase).calls c = phase := if_pos rfl

theorem State.move_other {c' : CallId} (other : c' ≠ c) : (s.move c phase).calls c' = s.calls c' :=
  if_neg other

/-! ## Steps that are not taken apart -/

def Phase.ofTransport : Transport.Phase → Phase
  | .absent => absent
  | .entered => entered
  | .flagged => flagged
  | .willing => willing
  | .disconnecting => disconnecting
  | .done r => done r

def State.ofTransport (t : Transport.State) : State where
  gateway := t.gateway
  closeRequested := t.closeRequested
  sessionEnded := t.sessionEnded
  handler := if t.handlerGone then .gone else .alive
  calls c := .ofTransport (t.calls c)

variable {t t' : Transport.State}

theorem State.isClosed_ofTransport : (ofTransport t).isClosed = t.isClosed := by
  cases gone : t.handlerGone <;>
    simp [isClosed, Transport.State.isClosed, ofTransport, gone, Handler.isNoticed]

theorem State.ofTransport_move {phase : Transport.Phase} :
    ofTransport (t.move c phase) = (ofTransport t).move c (.ofTransport phase) := by
  simp only [ofTransport, Transport.State.move, move, State.mk.injEq, true_and]
  refine ⟨rfl, ?_⟩
  funext c'
  split <;> rfl

theorem State.move_move : (s.move c phase).move c phase' = s.move c phase' := by
  simp only [move, State.mk.injEq, true_and]
  funext c'
  split <;> rfl

theorem exists_run_of_step (moved : Transport.step t a = some (t', es)) :
    ∃ as, Reaches step (.ofTransport t) as (.ofTransport t') es := by
  have at_phase {c : CallId} {phase : Transport.Phase} (there : t.calls c = phase) :
      (State.ofTransport t).calls c = .ofTransport phase := congrArg Phase.ofTransport there
  have one {t' : Transport.State} {es : List Event}
      (moved : step (.ofTransport t) a = some (.ofTransport t', es)) :
      ∃ as, Reaches step (.ofTransport t) as (.ofTransport t') es := ⟨[a], .single moved⟩
  cases Transport.Transition.of_step moved with
  | arrived absent =>
      apply one
      simp [step, at_phase absent, Phase.ofTransport, State.ofTransport_move]
  | late entered flag =>
      apply one
      have flag : (State.ofTransport t).closeRequested = true := flag
      simp [step, at_phase entered, Phase.ofTransport, flag, State.finish, State.ofTransport_move]
  | flagged entered flag =>
      apply one
      have flag : (State.ofTransport t).closeRequested = false := flag
      rw [State.ofTransport_move]
      simp only [step, at_phase entered, Phase.ofTransport, flag, Bool.false_eq_true, if_false]
      rfl
  | @outlived c flagged closed =>
      -- One look there is up to two here: at the mark of the handler, and then at the session.
      rw [← State.isClosed_ofTransport, State.isClosed, Bool.or_eq_true] at closed
      have there := at_phase flagged
      rw [State.ofTransport_move]
      cases noticed : (State.ofTransport t).handler.isNoticed with
      | true =>
          refine ⟨[.proceed c], .single ?_⟩
          simp [step, there, Phase.ofTransport, noticed, State.finish]
      | false =>
          have ended := closed.resolve_left (by simp [noticed])
          have first : step (.ofTransport t) (.proceed c) =
              some ((State.ofTransport t).move c .unnoticed, []) := by
            simp [step, there, Phase.ofTransport, noticed]
          refine ⟨[.proceed c] ++ [.proceed c], (Reaches.single first).snoc ?_⟩
          have ended : ((State.ofTransport t).move c .unnoticed).sessionEnded = true := ended
          simp [step, ended, State.finish, State.move_move, Phase.ofTransport]
  | @willing c flagged alive =>
      rw [← State.isClosed_ofTransport, State.isClosed, Bool.or_eq_false_iff] at alive
      have there := at_phase flagged
      have first : step (.ofTransport t) (.proceed c) =
          some ((State.ofTransport t).move c .unnoticed, []) := by
        simp [step, there, Phase.ofTransport, alive.1]
      refine ⟨[.proceed c] ++ [.proceed c], (Reaches.single first).snoc ?_⟩
      have ended : ((State.ofTransport t).move c .unnoticed).sessionEnded = false := alive.2
      simp [step, ended, State.move_move, State.ofTransport_move, Phase.ofTransport]
  | asked willing =>
      apply one
      simp [step, at_phase willing, Phase.ofTransport, State.ofTransport_move]
  | disconnected disconnecting =>
      apply one
      simp [step, at_phase disconnecting, Phase.ofTransport, State.finish, State.ofTransport_move]
  | ended alive =>
      apply one
      have alive : (State.ofTransport t).sessionEnded = false := alive
      simp only [step, alive, Bool.false_eq_true, if_false]
      rfl
  | dropped alive =>
      refine ⟨[.dropHandler, .dropHandler, .dropHandler], run_iff.1 ?_⟩
      simp [run, step, State.ofTransport, alive]

/-- Whatever a transport shows, it shows here. -/
theorem exists_run_of_run {g : String} (ran : Transport.run (.start g) as = some (t, es)) :
    ∃ as', run (.start g) as' = some (.ofTransport t, es) := by
  have reached := Transport.run_iff.1 ran
  clear ran
  induction reached with
  | refl => exact ⟨[], rfl⟩
  | snoc _ moved ih =>
      obtain ⟨front, before⟩ := ih
      obtain ⟨back, after⟩ := exists_run_of_step moved
      exact ⟨front ++ back, run_iff.2 ((run_iff.1 before).trans after)⟩

end GatewayTunnel.Closing
