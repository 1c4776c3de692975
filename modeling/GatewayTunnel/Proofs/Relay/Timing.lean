import GatewayTunnel.Proofs.Relay.Fidelity
import GatewayTunnel.Proofs.Timer.Law

/-!
# The timer of a relay

An event that comes while a relay copies ends it, or leaves it copying and does to its timer what
`timerEvent` says: `step_copying`. So a relay that copies has the timer of the `history` that its events
have made, which is `timer_of_run`; and a run of it is one that still copies, or one that an event has
ended, which is `run_ending`. `run_of_opened` cuts a run at the opening of the channel.
-/

namespace GatewayTunnel

def Side.other : Side → Side
  | .request => .response
  | .response => .request

theorem Side.eq_other {own side : Side} (different : own ≠ side) : own = side.other := by
  cases own <;> cases side <;> first | rfl | exact absurd rfl different

namespace Relay

variable {p : SessionPolicy} {s s' : State} {c c' : Copies} {now later time origin : Nat} {e : Event}
  {events before after : List (Nat × Event)} {gone gone' : Bool} {side : Side}

def State.opened (p : SessionPolicy) (now : Nat) (gone : Bool) : State :=
  ⟨.copying (Relay.opened p now gone), gone⟩

def Event.isCancel : Event → Bool
  | .cancel => true
  | _ => false

def timerEvent (p : SessionPolicy) : Event → ActivityTimer.Event
  | .copied _ (.chunk _) | .copied _ .flushed => .update
  | .copied side .halfClosed => .setTimeout (p.grace side).ceilMillis
  | .cancel => .cancel
  | _ => .none

def timed (p : SessionPolicy) (events : List (Nat × Event)) : List (Nat × ActivityTimer.Event) :=
  events.map fun x => (x.1, timerEvent p x.2)

def history (p : SessionPolicy) (origin : Nat) (gone : Bool) (events : List (Nat × Event)) :
    List (Nat × ActivityTimer.Event) :=
  (if gone then [(origin, .cancel)] else []) ++ timed p events

@[simp] theorem history_false : history p origin false events = timed p events := rfl

theorem inOrder_timed : InOrder origin (timed p events) now ↔ InOrder origin events now :=
  inOrder_map _

theorem inOrder_history (order : InOrder origin events now) :
    InOrder origin (history p origin gone events) now := by
  cases gone <;> simpa [history, inOrder_timed] using order

theorem timed_append : timed p (before ++ after) = timed p before ++ timed p after :=
  List.map_append

theorem history_append :
    history p origin gone (before ++ after) = history p origin gone before ++ timed p after := by
  simp [history, timed_append]

/-! ## Runs -/

theorem run_append : run p s (before ++ after) = (run p s before).bind fun s => run p s after := by
  induction before generalizing s with
  | nil => rfl
  | cons x before ih => cases next : step p s x.1 x.2 <;> simp [run, next, ih]

theorem run_ended {r : Except TunnelError Unit} {left : Option Copies}
    (finished : s.relay = .ended now r left) (ran : run p s events = some s') :
    s'.relay = .ended now r left ∧ ∀ x ∈ events, x.2 = .cancel := by
  induction events generalizing s with
  | nil =>
      cases ran
      exact ⟨finished, List.forall_mem_nil _⟩
  | cons x rest ih =>
      obtain ⟨t, first, others⟩ := Option.bind_eq_some_iff.1 ran
      generalize cause : x.2 = e at first
      cases Transition.of_step first with
      | unheard =>
          obtain ⟨stays, cancels⟩ := ih (s := { s with cancelled := true }) finished others
          exact ⟨stays, List.forall_mem_cons.2 ⟨cause, cancels⟩⟩
      | opened other | refused other | heard other | moved other | ended other | noticed other =>
          rw [finished] at other
          cases other

inductive Ending (c : Copies) (gone : Bool) (now : Nat) : Event → Except TunnelError Unit → Prop where
  | failed {side : Side} {input : Copy.Input} {failure : IoError} :
      (c.side side).step input = some (.ended (.error failure)) →
      Ending c gone now (.copied side input) (.error (.relay failure))
  | finished {side : Side} {n m : Nat} : (c.side side).step .halfClosed = some (.ended (.ok n)) →
      c.side side.other = .ended (.ok m) → Ending c gone now (.copied side .halfClosed) (.ok ())
  | noticed : (c.timer.advance now).cancelledAt = some now →
      Ending c gone now .notice (if gone then .error interrupted else .ok ())

structure Going (p : SessionPolicy) (c : Copies) (now : Nat) (e : Event) (c' : Copies) : Prop where
  timer : c'.timer = c.timer.step now (timerEvent p e)
  incomplete : c.isComplete = false → c'.isComplete = false

theorem isOver_eq_false : isOver now c = false ↔ ∀ t, c.timer.cancelledAt = some t → now ≤ t := by
  unfold isOver
  cases c.timer.cancelledAt <;> simp

theorem step_inTime (h : step p ⟨.copying c, gone⟩ now e = some s') :
    ∀ t, (c.timer.advance now).cancelledAt = some t → now ≤ t := by
  cases Transition.of_step h with
  | opened closed | refused closed => cases closed
  | unheard never => exact absurd rfl (never _)
  | heard copying inTime | moved copying inTime | ended copying inTime =>
      cases copying
      exact isOver_eq_false.1 inTime
  | noticed copying expired =>
      cases copying
      intro t ended
      rw [expired] at ended
      cases ended
      exact Nat.le_refl _

theorem answered_timer (copy : Copy) (input : Copy.Input) : (answered c side copy input).timer =
    if Copy.isActivity input then c.timer.update else c.timer := by
  unfold answered
  cases side <;> split <;> rfl

theorem timerEvent_copied {input : Copy.Input} (goesOn : input ≠ .halfClosed) :
    timerEvent p (.copied side input) = if Copy.isActivity input then .update else .none := by
  cases input <;> first | rfl | exact absurd rfl goesOn

theorem input_of_ended {copy : Copy} {input : Copy.Input} {n : Nat}
    (answer : copy.step input = some (.ended (.ok n))) : input = .halfClosed := by
  cases Copy.Turn.of_step answer
  rfl

theorem isComplete_of_side {n m : Nat} (own : c.side side = .ended (.ok n))
    (others : c.side side.other = .ended (.ok m)) : c.isComplete = true := by
  cases side <;> simp_all [Copies.isComplete, Copies.side, Side.other]

theorem exists_of_isComplete (complete : c.isComplete = true) (side : Side) :
    ∃ n, c.side side = .ended (.ok n) := by
  unfold Copies.isComplete at complete
  split at complete
  · rename_i request response
    cases side with
    | request => exact ⟨_, request⟩
    | response => exact ⟨_, response⟩
  · cases complete

theorem ne_halfClosed {copy copy' : Copy} {input : Copy.Input} (answer : copy.step input = some copy')
    (goesOn : copy'.result? = none) : input ≠ .halfClosed := by
  rintro rfl
  cases Copy.Turn.of_step answer with
  | halfClosed | failed => cases goesOn

theorem step_copying (h : step p ⟨.copying c, gone⟩ now e = some s') :
    (∃ c', s' = ⟨.copying c', gone || e.isCancel⟩ ∧ Going p c now e c') ∨
      ∃ r left, s' = ⟨.ended now r left, gone⟩ ∧ Ending c gone now e r := by
  cases Transition.of_step h with
  | opened closed | refused closed => cases closed
  | unheard never => exact absurd rfl (never _)
  | heard copying =>
      cases copying
      exact .inl ⟨_, congrArg (State.mk _) (Bool.or_true gone).symm, rfl, id⟩
  | @moved _ side input copy copying _ answer result =>
      cases copying
      refine .inl ⟨_, congrArg (State.mk _) (Bool.or_false gone).symm, ?_, fun _ => ?_⟩
      · rw [answered_timer, timerEvent_copied (ne_halfClosed answer result)]
        split <;> rfl
      -- This direction goes on, so the relay is not complete.
      · refine eq_false_of_ne_true fun complete => ?_
        obtain ⟨n, ended⟩ := exists_of_isComplete complete side
        rw [side_answered, if_pos rfl] at ended
        cases ended ▸ result
  | @ended _ side input r copying _ answer =>
      cases copying
      rw [side_timer] at answer
      cases r with
      | error failure => exact .inr ⟨_, _, rfl, .failed answer⟩
      | ok n =>
          obtain rfl := input_of_ended answer
          simp only [afterEnd]
          split
          · rename_i complete
            obtain ⟨m, others⟩ := exists_of_isComplete complete side.other
            have different : side ≠ side.other := by cases side <;> decide
            rw [side_timer, side_answered, if_neg different, side_timer] at others
            exact .inr ⟨_, _, rfl, .finished answer others⟩
          · rename_i incomplete
            refine .inl ⟨_, congrArg (State.mk _) (Bool.or_false gone).symm, ?_,
              fun _ => eq_false_of_ne_true incomplete⟩
            rw [answered_timer]
            rfl
  | noticed copying expired =>
      cases copying
      exact .inr ⟨_, _, rfl, .noticed expired⟩

/-! ## Runs of a relay that copies -/

theorem run_copying (ran : run p ⟨.copying c, gone⟩ events = some ⟨.copying c', gone'⟩) :
    gone' = (gone || events.any (·.2.isCancel)) ∧ c'.timer = c.timer.run (timed p events) ∧
      (c.isComplete = false → c'.isComplete = false) := by
  induction events generalizing c gone with
  | nil =>
      cases ran
      exact ⟨by simp, rfl, id⟩
  | cons x rest ih =>
      obtain ⟨t, first, others⟩ := Option.bind_eq_some_iff.1 ran
      rcases step_copying first with ⟨c₁, rfl, going⟩ | ⟨r, left, rfl, -⟩
      · obtain ⟨flag, timer, incomplete⟩ := ih others
        refine ⟨?_, ?_, incomplete ∘ going.incomplete⟩
        · rw [flag, List.any_cons, Bool.or_assoc]
        · rw [timer, going.timer]
          rfl
      · cases (run_ended rfl others).1

theorem opened_timer : (Relay.opened p origin gone).timer =
    (ActivityTimer.start origin p.connectionIdle.ceilMillis).run
      (if gone then [(origin, .cancel)] else []) := by
  cases gone with
  | false => rfl
  | true =>
      have early : (ActivityTimer.start origin p.connectionIdle.ceilMillis).advance origin =
          ActivityTimer.start origin p.connectionIdle.ceilMillis := by
        by_cases zero : p.connectionIdle.ceilMillis = 0
        · exact ActivityTimer.advance_of_ended (if_pos zero)
        · exact ActivityTimer.advance_early (Nat.lt_add_of_pos_right (Nat.pos_of_ne_zero zero))
      simp [Relay.opened, ActivityTimer.run, ActivityTimer.step, early]

theorem timer_of_run (now : Nat)
    (ran : run p (.opened p origin gone) events = some ⟨.copying c, gone'⟩) :
    c.timer.advance now = ActivityTimer.observed origin p.connectionIdle.ceilMillis
      (history p origin gone events) now := by
  rw [(run_copying ran).2.1, opened_timer, ActivityTimer.observed, history, ActivityTimer.run_append]

theorem copy_of_run
    (ran : run p (.opened p origin gone) events = some ⟨.copying c, gone'⟩) (side : Side) :
    Copy.start.run (answers side events) = some (c.side side) := by
  have begins : (State.opened p origin gone).relay.direction side = .start := by cases side <;> rfl
  rw [← begins, direction_run ran, direction_copying]

theorem exists_open (ran : run p (.opened p origin gone) events = some ⟨.copying c, gone'⟩) :
    ∃ side, ∀ n, c.side side ≠ .ended (.ok n) := by
  have incomplete : c.isComplete = false := (run_copying ran).2.2 rfl
  by_contra all
  have ended (side : Side) : ∃ n, c.side side = .ended (.ok n) := by
    by_contra opens
    exact all ⟨side, fun n done => opens ⟨n, done⟩⟩
  obtain ⟨n, request⟩ := ended .request
  obtain ⟨m, response⟩ := ended .response
  rw [isComplete_of_side request response] at incomplete
  cases incomplete

theorem run_append_copying
    (ran : run p ⟨.copying c, gone⟩ (before ++ after) = some ⟨.copying c', gone'⟩) :
    ∃ c₁ gone₁, run p ⟨.copying c, gone⟩ before = some ⟨.copying c₁, gone₁⟩ ∧
      run p ⟨.copying c₁, gone₁⟩ after = some ⟨.copying c', gone'⟩ := by
  induction before generalizing c gone with
  | nil => exact ⟨c, gone, rfl, ran⟩
  | cons x before ih =>
      obtain ⟨t, first, others⟩ := Option.bind_eq_some_iff.1 ran
      rcases step_copying first with ⟨c₁, rfl, -⟩ | ⟨r, left, rfl, -⟩
      · obtain ⟨c₂, gone₂, front, back⟩ := ih others
        exact ⟨c₂, gone₂, Option.bind_eq_some_iff.2 ⟨_, first, front⟩, back⟩
      · cases (run_ended rfl others).1

theorem times_le_of_ended (order : InOrder origin events now)
    (ran : run p (.opened p origin gone) events = some ⟨.copying c, gone'⟩)
    (ended : (c.timer.advance now).cancelledAt = some time) : ∀ x ∈ events, x.1 ≤ time := by
  intro x member
  refine Nat.le_of_not_lt fun after => ?_
  obtain ⟨front, back, rfl⟩ := List.append_of_mem member
  obtain ⟨orderFront, orderBack⟩ := order.cons_inv
  obtain ⟨c₁, gone₁, ranFront, ranBack⟩ := run_append_copying ran
  obtain ⟨s, first, -⟩ := Option.bind_eq_some_iff.1 ranBack
  -- the timer had ended before the event then, so that the event was not possible
  have since : ∀ y ∈ timed p (x :: back), time < y.1 := by
    simp only [timed, List.forall_mem_map]
    refine List.forall_mem_cons.2 ⟨after, fun y member => ?_⟩
    exact Nat.lt_of_lt_of_le after (orderBack.of_mem member).1
  rw [timer_of_run now ran, ActivityTimer.cancelledAt_iff (inOrder_history order), history_append]
    at ended
  rcases (ActivityTimer.due_append fun y member => Nat.le_of_lt (since y member)).1 ended.2.1 with
    due | ⟨e, member, -⟩
  · obtain ⟨t, upTo, expired⟩ :=
      ActivityTimer.ended_of_due (inOrder_history orderFront) due (Nat.le_of_lt after)
    rw [← timer_of_run x.1 ranFront] at expired
    exact Nat.lt_irrefl _ (Nat.lt_of_le_of_lt (Nat.le_trans (step_inTime first t expired) upTo) after)
  · exact Nat.lt_irrefl _ (since _ member)

theorem run_ending (ran : run p ⟨.copying c, gone⟩ events = some s) :
    (∃ c' gone', s = ⟨.copying c', gone'⟩) ∨
      ∃ before x after c' gone' r left gone'', events = before ++ x :: after ∧
        run p ⟨.copying c, gone⟩ before = some ⟨.copying c', gone'⟩ ∧
        (∀ t, (c'.timer.advance x.1).cancelledAt = some t → x.1 ≤ t) ∧
        Ending c' gone' x.1 x.2 r ∧ s = ⟨.ended x.1 r left, gone''⟩ := by
  induction events generalizing c gone with
  | nil =>
      cases ran
      exact .inl ⟨c, gone, rfl⟩
  | cons x rest ih =>
      obtain ⟨t, first, others⟩ := Option.bind_eq_some_iff.1 ran
      rcases step_copying first with ⟨c₁, rfl, -⟩ | ⟨r, left, rfl, ending⟩
      · rcases ih others with copying |
          ⟨before, y, after, c', gone', r, left, gone'', rfl, front, rest⟩
        · exact .inl copying
        · exact .inr ⟨x :: before, y, after, c', gone', r, left, gone'', rfl,
            Option.bind_eq_some_iff.2 ⟨_, first, front⟩, rest⟩
      · obtain ⟨relay, flag⟩ := s
        obtain rfl : relay = .ended x.1 r left := (run_ended rfl others).1
        exact .inr ⟨[], x, rest, c, gone, r, left, flag, rfl, rfl, step_inTime first, ending, rfl⟩

/-! ## The opening of the channel -/

theorem run_opening (ran : run p s events = some s') (opening : s'.relay = .opening) :
    s.relay = .opening ∧ s'.cancelled = (s.cancelled || events.any (·.2.isCancel)) := by
  induction events generalizing s with
  | nil =>
      cases ran
      exact ⟨opening, by simp⟩
  | cons x rest ih =>
      obtain ⟨t, first, others⟩ := Option.bind_eq_some_iff.1 ran
      obtain ⟨before, flag⟩ := ih others
      generalize cause : x.2 = e at first
      cases Transition.of_step first with
      | unheard =>
          rw [List.any_cons, cause]
          exact ⟨before, by simp [flag, Event.isCancel]⟩
      | opened | refused | heard | moved | noticed => cases before
      | @ended _ side input r =>
          cases r with
          | error failure => cases before
          | ok n =>
              simp only [afterEnd] at before
              split at before <;> cases before

theorem run_of_opened {d : Destination} {asked : Nat}
    (ran : run p (.start asked d gone) (before ++ (origin, .opened (.ok ())) :: events) = some s) :
    run p (.opened p origin (gone || before.any (·.2.isCancel))) events = some s := by
  rw [run_append] at ran
  obtain ⟨s₁, front, back⟩ := Option.bind_eq_some_iff.1 ran
  obtain ⟨s₂, first, others⟩ := Option.bind_eq_some_iff.1 back
  cases Transition.of_step first with
  | opened closed =>
      have opening : s₁.relay = .opening := by
        cases relay : s₁.relay with
        | opening => rfl
        | copying | ended =>
            rw [relay] at closed
            cases closed
      obtain ⟨-, flag⟩ := run_opening front opening
      have same : (State.start asked d gone).cancelled = gone := by
        unfold State.start
        split <;> rfl
      rw [same] at flag
      rw [← flag]
      exact others

end Relay

end GatewayTunnel
