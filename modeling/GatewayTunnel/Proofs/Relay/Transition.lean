import GatewayTunnel.Relay

namespace GatewayTunnel

theorem Copy.result?_eq_some {c : Copy} {r : Except IoError Nat} :
    c.result? = some r ↔ c = .ended r := by
  cases c <;> simp [result?]

namespace Relay

variable {p : SessionPolicy} {s s' : State} {now : Nat} {e : Event} {side : Side}

def answered (c : Copies) (side : Side) (copy : Copy) (input : Copy.Input) : Copies :=
  let c := c.setSide side copy
  if Copy.isActivity input then { c with timer := c.timer.update } else c

inductive Transition (p : SessionPolicy) (s : State) (now : Nat) : Event → State → Prop where
  | opened : s.relay.advance now = .opening →
      Transition p s now (.opened (.ok ())) { s with relay := .copying (opened p now s.cancelled) }
  | refused {failure : TunnelError} : s.relay.advance now = .opening →
      Transition p s now (.opened (.error failure)) { s with relay := .ended now (.error failure) none }
  /-- The caller gives up, and no channel is open. -/
  | unheard : (∀ c, s.relay.advance now ≠ .copying c) →
      Transition p s now .cancel { s with cancelled := true }
  | heard {c : Copies} : s.relay.advance now = .copying c → isOver now c = false →
      Transition p s now .cancel ⟨.copying { c with timer := c.timer.cancel now }, true⟩
  | moved {c : Copies} {side : Side} {input : Copy.Input} {copy : Copy} :
      s.relay.advance now = .copying c → isOver now c = false →
      (c.side side).step input = some copy → copy.result? = none →
      Transition p s now (.copied side input) { s with relay := .copying (answered c side copy input) }
  | ended {c : Copies} {side : Side} {input : Copy.Input} {r : Except IoError Nat} :
      s.relay.advance now = .copying c → isOver now c = false →
      (c.side side).step input = some (.ended r) →
      Transition p s now (.copied side input)
        { s with relay := afterEnd p now side (answered c side (.ended r) input) r }
  | noticed {c : Copies} : s.relay.advance now = .copying c → c.timer.cancelledAt = some now →
      Transition p s now .notice
        { s with relay := finish now c (if s.cancelled then .error interrupted else .ok ()) }

theorem Transition.of_step (h : step p s now e = some s') : Transition p s now e s' := by
  unfold step at h
  split at h
  · cases h
    exact .opened ‹_›
  · cases h
    exact .refused ‹_›
  · cases h
    exact .unheard (by simp [*])
  · split at h
    · cases h
    · rename_i c copying inTime
      cases h
      exact .heard copying (eq_false_of_ne_true inTime)
  · split at h
    · cases h
    · rename_i c side input copying inTime
      obtain ⟨relay, after, rfl⟩ := Option.map_eq_some_iff.1 h
      unfold afterInput at after
      split at after
      · cases after
      · rename_i copy answer
        cases result : copy.result? with
        | none =>
            simp only [result, Option.some.injEq] at after
            subst after
            exact .moved copying (eq_false_of_ne_true inTime) answer result
        | some r =>
            simp only [result, Option.some.injEq] at after
            subst after
            obtain rfl := Copy.result?_eq_some.1 result
            exact .ended copying (eq_false_of_ne_true inTime) answer
  · split at h
    · cases h
      exact .noticed ‹_› ‹_›
    · cases h
  · cases h
    exact .unheard (by simp [*])
  · cases h

/-! ## The directions -/

def direction (side : Side) : Relay → Copy
  | .opening | .ended _ _ none => .start
  | .copying c | .ended _ _ (some c) => c.side side

@[simp] theorem direction_copying (c : Copies) : (copying c).direction side = c.side side := rfl

@[simp] theorem side_timer (c : Copies) (timer : ActivityTimer) :
    { c with timer }.side side = c.side side := by
  cases side <;> rfl

@[simp] theorem direction_finish (c : Copies) (r : Except TunnelError Unit) :
    (finish now c r).direction side = c.side side :=
  side_timer c _

@[simp] theorem direction_advance (now : Nat) (r : Relay) :
    (r.advance now).direction side = r.direction side := by
  cases r with
  | copying c => exact side_timer c _
  | opening | ended => rfl

theorem side_setSide (c : Copies) (own side : Side) (copy : Copy) :
    (c.setSide own copy).side side = if own = side then copy else c.side side := by
  cases own <;> cases side <;> rfl

theorem side_answered (c : Copies) (own side : Side) (copy : Copy) (input : Copy.Input) :
    (answered c own copy input).side side = if own = side then copy else c.side side := by
  rw [← side_setSide]
  unfold answered
  split
  · exact side_timer _ _
  · rfl

@[simp] theorem direction_afterEnd (c : Copies) (own : Side) (r : Except IoError Nat) :
    (afterEnd p now own c r).direction side = c.side side := by
  cases r with
  | error e => simp only [afterEnd, direction_finish, side_timer]
  | ok n =>
      simp only [afterEnd]
      split
      · rw [direction_finish, side_timer]
      · rw [direction_copying, side_timer]

end Relay

end GatewayTunnel
