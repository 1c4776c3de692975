import GatewayTunnel.Proofs.Relay.Timing
import GatewayTunnel.Sessions

namespace GatewayTunnel

namespace ActivityTimer

variable {t : ActivityTimer} {now : Nat} {e : Event}

theorem isExpired_iff : t.isExpired = true ↔ ∃ c, t.cancelledAt = some c :=
  Option.isSome_iff_exists

theorem isExpired_step (expired : t.isExpired = true) : (t.step now e).isExpired = true := by
  obtain ⟨c, ended⟩ := isExpired_iff.1 expired
  exact isExpired_iff.2 ⟨c, cancelledAt_step ended⟩

@[simp] theorem isExpired_cancel : (t.cancel now).isExpired = true := by
  cases ended : t.cancelledAt <;> simp [cancel, isExpired, ended]

theorem stays_ended (expired : t.isExpired = true) :
    t.nextCheck? = none ∧ ∀ h : List (Nat × Event), (t.run h).cancelledAt = t.cancelledAt := by
  obtain ⟨c, ended⟩ := isExpired_iff.1 expired
  refine ⟨by simp [nextCheck?, expired], fun h => ?_⟩
  rw [cancelledAt_run ended, ended]

end ActivityTimer

namespace Relay

variable {p : SessionPolicy} {s s' : State} {before after : Relay} {now : Nat} {e : Event}
  {gone : Bool}

def stopped (r : Relay) : Bool :=
  r.copies?.any (·.timer.isExpired)

@[simp] theorem isExpired_opened : (opened p now true).timer.isExpired = true := by
  simp only [opened, if_true, ActivityTimer.isExpired_cancel]

@[simp] theorem stopped_copying {c : Copies} :
    (Relay.copying c).stopped = c.timer.isExpired := rfl

/-- A relay that had its channel and has ended has stopped its timer. -/
def StopsAtEnd (r : Relay) : Prop :=
  ∀ t result left, r = .ended t result (some left) → left.timer.isExpired = true

theorem stopsAtEnd_of_none {r : Relay} (absent : r.copies? = none) : r.StopsAtEnd := by
  rintro t result left rfl
  cases absent

theorem copies?_start {d : Destination} : (State.start now d gone).relay.copies? = none := by
  unfold State.start
  split <;> rfl

theorem cancelled_start {d : Destination} : (State.start now d gone).cancelled = gone := by
  unfold State.start
  split <;> rfl

/-- What an event makes of a relay, as far as its channel and its timer are concerned. -/
inductive Change (p : SessionPolicy) (now : Nat) (e : Event) (gone : Bool) : Relay → Relay → Prop where
  | waits : e = .cancel → Change p now e gone .opening .opening
  | refused {failure : TunnelError} : e = .opened (.error failure) →
      Change p now e gone .opening (.ended now (.error failure) none)
  | opens : e = .opened (.ok ()) →
      Change p now e gone .opening (.copying (Relay.opened p now gone))
  | goes {c c' : Copies} : c'.timer = c.timer.step now (timerEvent p e) →
      Change p now e gone (.copying c) (.copying c')
  | ends {c left : Copies} {result : Except TunnelError Unit} : left.timer.isExpired = true →
      Change p now e gone (.copying c) (.ended now result (some left))
  | stays {t : Nat} {result : Except TunnelError Unit} {left : Option Copies} : e = .cancel →
      Change p now e gone (.ended t result left) (.ended t result left)

theorem expired_of_ended {c : Copies} {gone' : Bool} {t : Nat} {result : Except TunnelError Unit}
    {left : Option Copies}
    (h : step p ⟨.copying c, gone⟩ now e = some ⟨.ended t result left, gone'⟩) :
    ∃ c', left = some c' ∧ c'.timer.isExpired = true := by
  generalize same : (⟨.ended t result left, gone'⟩ : State) = s' at h
  cases Transition.of_step h with
  | opened closed | refused closed => cases closed
  | unheard never => exact absurd rfl (never _)
  | heard | moved => cases same
  | @ended c side input answer =>
      cases answer with
      | error failure =>
          cases same
          exact ⟨_, rfl, ActivityTimer.isExpired_cancel⟩
      | ok n =>
          simp only [afterEnd] at same
          split at same <;> cases same
          exact ⟨_, rfl, ActivityTimer.isExpired_cancel⟩
  | noticed =>
      cases same
      exact ⟨_, rfl, ActivityTimer.isExpired_cancel⟩

namespace Change

theorem of_step (h : step p s now e = some s') : Change p now e s.cancelled s.relay s'.relay := by
  obtain ⟨relay, gone⟩ := s
  cases relay with
  | opening =>
      cases Transition.of_step h with
      | opened => exact .opens rfl
      | refused => exact .refused rfl
      | unheard => exact .waits rfl
      | heard copying | moved copying | ended copying | noticed copying => cases copying
  | copying c =>
      rcases step_copying h with ⟨c', rfl, going⟩ | ⟨result, left, rfl, -⟩
      · exact .goes going.timer
      · obtain ⟨c', rfl, expired⟩ := expired_of_ended h
        exact .ends expired
  | ended t result left =>
      cases Transition.of_step h with
      | opened other | refused other | heard other | moved other | ended other | noticed other =>
          cases other
      | unheard => exact .stays rfl

theorem copies?_isSome (change : Change p now e gone before after)
    (had : before.copies?.isSome = true) : after.copies?.isSome = true := by
  cases change with
  | waits | refused | opens => cases had
  | goes | ends => rfl
  | stays => exact had

theorem copies?_of_cancel (change : Change p now .cancel gone before after) :
    after.copies?.isSome = before.copies?.isSome := by
  cases change with
  | refused other | opens other => cases other
  | waits | goes | ends | stays => rfl

theorem stopped (change : Change p now e gone before after) (stopped : before.stopped = true) :
    after.stopped = true := by
  cases change with
  | waits | refused | opens => cases stopped
  | goes timer =>
      rw [stopped_copying, timer]
      exact ActivityTimer.isExpired_step stopped
  | ends expired => exact expired
  | stays => exact stopped

theorem stopsAtEnd (change : Change p now e gone before after) (stops : before.StopsAtEnd) :
    after.StopsAtEnd := by
  rintro t result left rfl
  cases change with
  | ends expired => exact expired
  | stays => exact stops t result left rfl

theorem stopped_of_opened (change : Change p now e true before after)
    (before_none : before.copies? = none) (has : after.copies?.isSome = true) :
    after.stopped = true := by
  cases change with
  | waits | refused => cases has
  | opens => rw [stopped_copying, isExpired_opened]
  | goes | ends => cases before_none
  | stays => rw [before_none] at has; cases has

theorem stopped_of_cancel (change : Change p now .cancel gone before after)
    (stops : before.StopsAtEnd) (has : after.copies?.isSome = true) : after.stopped = true := by
  cases change with
  | waits => cases has
  | refused other | opens other => cases other
  | goes timer =>
      simp [timer, ActivityTimer.step, timerEvent]
  | ends expired => exact expired
  | @stays t result left =>
      obtain ⟨c, rfl⟩ := Option.isSome_iff_exists.1 has
      exact stops t result c rfl

end Change

theorem cancelled_step (h : step p s now e = some s') :
    s'.cancelled = (s.cancelled || e.isCancel) := by
  cases Transition.of_step h with
  | opened | refused | moved | ended | noticed => exact (Bool.or_false _).symm
  | unheard | heard => exact (Bool.or_true _).symm

end Relay

end GatewayTunnel
