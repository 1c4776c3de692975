import GatewayTunnel.Proofs.Relay.Copying
import GatewayTunnel.Proofs.Relay.Transition

namespace GatewayTunnel.Relay

variable {p : SessionPolicy} {s s' : State} {now : Nat} {e : Event} {events : List (Nat × Event)}
  {side : Side}

def Event.answer? (side : Side) : Event → Option Copy.Input
  | .copied own input => if own = side then some input else none
  | _ => none

def answers (side : Side) (events : List (Nat × Event)) : List Copy.Input :=
  events.filterMap fun (_, e) => e.answer? side

theorem direction_step (h : step p s now e = some s') :
    (s.relay.direction side).run (e.answer? side).toList = some (s'.relay.direction side) := by
  have answered_side {c : Copies} {own : Side} {input : Copy.Input} {copy : Copy}
      (answer : (c.side own).step input = some copy) :
      (c.side side).run (Event.answer? side (.copied own input)).toList =
        some ((answered c own copy input).side side) := by
    rw [side_answered]
    by_cases here : own = side
    · subst here
      simp [Event.answer?, Copy.run, answer]
    · simp [Event.answer?, Copy.run, here]
  rw [← direction_advance now s.relay]
  cases Transition.of_step h with
  | opened closed | refused closed =>
      rw [closed]
      cases side <;> rfl
  | unheard => exact congrArg some (direction_advance now _)
  | heard copying =>
      rw [copying, direction_copying, direction_copying, side_timer]
      rfl
  | noticed copying =>
      rw [copying, direction_copying, direction_finish]
      rfl
  | moved copying _ answer _ =>
      rw [copying, direction_copying, direction_copying]
      exact answered_side answer
  | ended copying _ answer =>
      rw [copying, direction_copying, direction_afterEnd]
      exact answered_side answer

theorem direction_run (ran : run p s events = some s') :
    (s.relay.direction side).run (answers side events) = some (s'.relay.direction side) := by
  induction events generalizing s with
  | nil =>
      cases ran
      rfl
  | cons x rest ih =>
      obtain ⟨now, e⟩ := x
      obtain ⟨t, first, others⟩ := Option.bind_eq_some_iff.1 ran
      have answers_cons : answers side ((now, e) :: rest) =
          (e.answer? side).toList ++ answers side rest := by
        cases answer : e.answer? side <;> simp [answers, answer]
      rw [answers_cons, Copy.run_append, direction_step first]
      exact ih others

theorem direction_start (d : Destination) (cancelled : Bool) :
    (State.start now d cancelled).relay.direction side = .start := by
  unfold State.start
  split <;> rfl

/-- No byte is lost, doubled, moved or made up in either direction, wherever the relay stops. -/
theorem bytes_kept {d : Destination} {cancelled : Bool}
    (ran : run p (.start now d cancelled) events = some s) (side : Side) :
    Copy.Faithful (answers side events) (s.relay.direction side) := by
  apply Copy.faithful_of_run
  rw [← direction_run ran, direction_start]

/-- The caller sends three bytes, which the gateway takes in two pieces, and ends. The gateway sends
two, of which the caller takes one before its end of the connection breaks. -/
def brokenAnswer : List (Nat × Event) := [
  (1, .opened (.ok ())),
  (2, .copied .request (.chunk [1, 2, 3])),
  (3, .copied .response (.chunk [4, 5])),
  (4, .copied .request (.accepted 2)),
  (5, .copied .response (.accepted 1)),
  (6, .copied .request (.accepted 9)),
  (7, .copied .request .flushed),
  (8, .copied .request .eof),
  (9, .copied .request .halfClosed),
  (10, .copied .response (.writeFailed (.bare .brokenPipe)))]

theorem bytes_kept_broken : ∃ s,
    run .standard (.start 0 (.tcp "host" 80) false) brokenAnswer = some s ∧
    Copy.Complete (answers .request brokenAnswer) 3 ∧
    Copy.accepted .start (answers .response brokenAnswer) = [4] ∧
    .shutdown ∉ Copy.calls .start (answers .response brokenAnswer) := by
  obtain ⟨s, ran, request, response⟩ : ∃ s,
      run .standard (.start 0 (.tcp "host" 80) false) brokenAnswer = some s ∧
      s.relay.direction .request = .ended (.ok 3) ∧
      s.relay.direction .response = .ended (.error (.bare .brokenPipe)) := ⟨_, rfl, rfl, rfl⟩
  exact ⟨s, ran, (bytes_kept ran .request).complete 3 request, rfl,
    (bytes_kept ran .response).unclosed _ response⟩

end GatewayTunnel.Relay
