import GatewayTunnel.Proofs.Relay.Timing

/-!
# Which silence ends a relay

`phase` says by the events alone since when a relay counts silence, and in intervals of which length:
from the opening of the channel, or from the end of the one direction that has ended. Where no event
comes at the very time of a check, a relay ends with the first silent interval of its phase, and with
nothing else of the timer: `silence_governed`.
-/

namespace GatewayTunnel

theorem Copy.run_halfClosed {c c' : Copy} {is js : List Copy.Input}
    (ran : c.run (is ++ .halfClosed :: js) = some c') : js = [] ∧ ∃ n, c' = .ended (.ok n) := by
  rw [run_append] at ran
  obtain ⟨d, -, rest⟩ := Option.bind_eq_some_iff.1 ran
  obtain ⟨d', last, others⟩ := Option.bind_eq_some_iff.1 rest
  cases d with
  | halfClosing total =>
      cases last
      obtain ⟨rfl, rfl⟩ := run_ended others
      exact ⟨rfl, total, rfl⟩
  | reading | writing | flushing | ended => cases last

namespace Relay

variable {p : SessionPolicy} {c : Copies} {now origin b t : Nat} {e : Event}
  {events before later : List (Nat × Event)} {gone gone' : Bool} {side : Side}

/-! ## The phase of a relay -/

def Event.closes (side : Side) (e : Event) : Bool :=
  e.answer? side = some .halfClosed

def closing? (side : Side) : List (Nat × Event) → Option (Nat × List (Nat × Event))
  | [] => none
  | x :: rest => if x.2.closes side then some (x.1, rest) else closing? side rest

/-- The phase of a relay that copies, by what happened since its channel was opened. -/
def phase (p : SessionPolicy) (origin : Nat) (events : List (Nat × Event)) : Phase Event :=
  match closing? .request events, closing? .response events with
  | none, none => ⟨origin, p.connectionIdle.ceilMillis, events⟩
  | some (b, later), none => ⟨b, p.downlinkOnly.ceilMillis, later⟩
  | _, some (b, later) => ⟨b, p.uplinkOnly.ceilMillis, later⟩

/-- A chunk was read, or is through, in either direction. -/
def Event.isActivity : Event → Bool
  | .copied _ (.chunk _) | .copied _ .flushed => true
  | _ => false

def moments (events : List (Nat × Event)) : List Nat :=
  (events.filter (·.2.isActivity)).map Prod.fst

/-- No event comes at the very time of a check. -/
def Apart (p : SessionPolicy) (origin : Nat) (events : List (Nat × Event)) : Prop :=
  ∀ i (inside : i < events.length), ¬ (phase p origin (events.take i)).IsCheck events[i].1

instance : Decidable (Apart p origin events) :=
  Nat.decidableBallLT _ _

theorem Event.eq_of_closes (closes : e.closes side) : e = .copied side .halfClosed := by
  cases e with
  | copied own input =>
      by_cases here : own = side
      · subst here
        simpa [Event.closes, Event.answer?] using closes
      · simp [Event.closes, Event.answer?, here] at closes
  | opened | cancel | notice => cases closes

theorem Event.closes_copied : (Event.copied side .halfClosed).closes side := by
  simp [Event.closes, Event.answer?]

theorem closing?_eq_none : closing? side events = none ↔ ∀ x ∈ events, x.2.closes side = false := by
  induction events with
  | nil => simp [closing?]
  | cons x rest ih => cases first : x.2.closes side <;> simp [closing?, first, ih]

theorem split_of_closing? (closed : closing? side events = some (b, later)) :
    ∃ before, events = before ++ (b, .copied side .halfClosed) :: later := by
  induction events with
  | nil => cases closed
  | cons x rest ih =>
      unfold closing? at closed
      split at closed
      · rename_i closes
        cases closed
        exact ⟨[], by simp [← Event.eq_of_closes closes]⟩
      · obtain ⟨before, rfl⟩ := ih closed
        exact ⟨x :: before, rfl⟩

theorem closed_once (ran : run p (.opened p origin gone)
    (before ++ (b, .copied side .halfClosed) :: later) = some ⟨.copying c, gone'⟩) :
    (∃ n, c.side side = .ended (.ok n)) ∧ ∀ x ∈ before ++ later, x.2.closes side = false := by
  have given_halfClosed {x : Nat × Event} {events : List (Nat × Event)} (member : x ∈ events)
      (closes : x.2.closes side = true) : .halfClosed ∈ answers side events :=
    List.mem_filterMap.2 ⟨x, member, of_decide_eq_true closes⟩
  have own := copy_of_run ran side
  have answers_eq : answers side (before ++ (b, .copied side .halfClosed) :: later) =
      answers side before ++ .halfClosed :: answers side later := by
    simp [answers, Event.answer?]
  rw [answers_eq] at own
  obtain ⟨nothing, ended⟩ := Copy.run_halfClosed own
  refine ⟨ended, fun x member => eq_false_of_ne_true fun closes => ?_⟩
  rcases List.mem_append.1 member with old | new
  · obtain ⟨front, back, split⟩ := List.append_of_mem (given_halfClosed old closes)
    rw [split, List.append_assoc, List.cons_append] at own
    cases (List.append_eq_nil_iff.1 (Copy.run_halfClosed own).1).2
  · have := given_halfClosed new closes
    rw [nothing] at this
    cases this

theorem closed_alone (ran : run p (.opened p origin gone) events = some ⟨.copying c, gone'⟩)
    (closed : closing? side events = some (b, later)) (others : closing? side.other events = none) :
    ∃ before, events = before ++ (b, .copied side .halfClosed) :: later ∧
      ∀ own, ∀ x ∈ before ++ later, x.2.closes own = false := by
  obtain ⟨before, rfl⟩ := split_of_closing? closed
  refine ⟨before, rfl, fun own x member => ?_⟩
  by_cases here : own = side
  · subst here
    exact (closed_once ran).2 x member
  · obtain rfl := Side.eq_other here
    refine closing?_eq_none.1 others x ?_
    rcases List.mem_append.1 member with old | new
    · exact List.mem_append_left _ old
    · exact List.mem_append_right _ (List.mem_cons_of_mem _ new)

theorem phase_cases
    (ran : run p (.opened p origin gone) events = some ⟨.copying c, gone'⟩) :
    ((∀ side, closing? side events = none) ∧
        phase p origin events = ⟨origin, p.connectionIdle.ceilMillis, events⟩) ∨
      ∃ side before b later, events = before ++ (b, .copied side .halfClosed) :: later ∧
        (∀ own, ∀ x ∈ before ++ later, x.2.closes own = false) ∧
        phase p origin events = ⟨b, (p.grace side).ceilMillis, later⟩ := by
  cases request : closing? .request events with
  | none =>
      cases response : closing? .response events with
      | none =>
          refine .inl ⟨fun side => ?_, by simp [phase, request, response]⟩
          cases side <;> assumption
      | some closed =>
          obtain ⟨b, later⟩ := closed
          obtain ⟨before, split, stays⟩ := closed_alone ran response request
          refine .inr ⟨.response, before, b, later, split, stays, ?_⟩
          simp [phase, request, response, SessionPolicy.grace]
  | some closed =>
      obtain ⟨b, later⟩ := closed
      cases response : closing? .response events with
      | none =>
          obtain ⟨before, split, stays⟩ := closed_alone ran request response
          refine .inr ⟨.request, before, b, later, split, stays, ?_⟩
          simp [phase, request, response, SessionPolicy.grace]
      | some closed' =>
          -- a relay with both directions ended is over
          obtain ⟨b', later'⟩ := closed'
          obtain ⟨before, split⟩ := split_of_closing? request
          obtain ⟨before', split'⟩ := split_of_closing? response
          obtain ⟨⟨n, first⟩, -⟩ := closed_once (split ▸ ran)
          obtain ⟨⟨m, second⟩, -⟩ := closed_once (split' ▸ ran)
          obtain ⟨side, opens⟩ := exists_open ran
          cases side with
          | request => exact absurd first (opens n)
          | response => exact absurd second (opens m)

/-! ## The timer of a relay that copies -/

theorem Event.isActivity_copied (side : Side) (input : Copy.Input) :
    (Event.copied side input).isActivity = Copy.isActivity input := by
  cases input <;> rfl

theorem timerEvent_eq_update_iff : timerEvent p e = .update ↔ e.isActivity := by
  cases e with
  | copied side input =>
      rw [Event.isActivity_copied]
      by_cases ends : input = .halfClosed
      · subst ends
        exact iff_of_false nofun Bool.false_ne_true
      · rw [timerEvent_copied ends]
        split <;> simp [*]
  | opened | cancel | notice => exact iff_of_false nofun Bool.false_ne_true

theorem updates_timed : ActivityTimer.updates (timed p events) = moments events := by
  simp [ActivityTimer.updates, moments, timed, List.filter_map, Function.comp_def,
    timerEvent_eq_update_iff]

theorem timed_quiet (stays : ∀ side, ∀ x ∈ events, x.2.closes side = false)
    (heard : ∀ x ∈ events, x.2.isCancel = false) : ∀ x ∈ timed p events, x.2.isQuiet := by
  intro x member
  obtain ⟨⟨now, e⟩, happened, rfl⟩ := List.mem_map.1 member
  cases e with
  | opened | notice => rfl
  | cancel => cases heard _ happened
  | copied side input =>
      have goesOn : input ≠ .halfClosed := by
        rintro rfl
        exact Bool.false_ne_true ((stays side _ happened).symm.trans Event.closes_copied)
      rw [timerEvent_copied goesOn]
      split <;> rfl

theorem timer_of_unheard (now : Nat)
    (ran : run p (.opened p origin gone) events = some ⟨.copying c, false⟩) :
    (∀ x ∈ events, x.2.isCancel = false) ∧ c.timer.advance now =
      ActivityTimer.observed origin p.connectionIdle.ceilMillis (timed p events) now := by
  obtain ⟨rfl, heard⟩ := Bool.or_eq_false_iff.1 (run_copying ran).1.symm
  exact ⟨by simpa using heard, by rw [timer_of_run now ran, history_false]⟩

theorem cancelledAt_iff_of_open (order : InOrder origin events now)
    (stays : ∀ side, ∀ x ∈ events, x.2.closes side = false)
    (ran : run p (.opened p origin gone) events = some ⟨.copying c, false⟩) :
    (c.timer.advance now).cancelledAt = some t ↔
      t ≤ now ∧ IsLeast {t | Silent (moments events) origin p.connectionIdle.ceilMillis t} t := by
  obtain ⟨heard, timer⟩ := timer_of_unheard now ran
  rw [timer, ActivityTimer.cancelledAt_iff_of_unchanged (inOrder_timed.2 order)
    (timed_quiet stays heard), updates_timed]

theorem running_of_closed (order : InOrder origin before b)
    (stays : ∀ side, ∀ x ∈ before, x.2.closes side = false)
    (apart : Apart p origin (before ++ (b, .copied side .halfClosed) :: later))
    (ran : run p (.opened p origin gone) (before ++ (b, .copied side .halfClosed) :: later) =
      some ⟨.copying c, false⟩) :
    (ActivityTimer.observed origin p.connectionIdle.ceilMillis (timed p before) b).cancelledAt =
      none := by
  obtain ⟨c₁, gone₁, front, back⟩ := run_append_copying ran
  obtain ⟨heard, -⟩ := Bool.or_eq_false_iff.1 (run_copying back).1.symm
  subst heard
  obtain ⟨s, first, -⟩ := Option.bind_eq_some_iff.1 back
  have whole : phase p origin before = ⟨origin, p.connectionIdle.ceilMillis, before⟩ := by
    simp [phase, closing?_eq_none.2 (stays _)]
  rw [← (timer_of_unheard b front).2]
  -- it can have ended only at the time of this event, which is not the time of a check
  cases ended : (c₁.timer.advance b).cancelledAt with
  | none => rfl
  | some t =>
      obtain ⟨upTo, ⟨k, t_eq, -⟩, -⟩ := (cancelledAt_iff_of_open order stays front).1 ended
      obtain rfl : b = t := Nat.le_antisymm (step_inTime first t ended) upTo
      have notNow := apart before.length (by simp)
      simp only [List.take_left, List.getElem_append_right (Nat.le_refl _), Nat.sub_self,
        List.getElem_cons_zero, whole] at notNow
      exact absurd ⟨k, t_eq⟩ notNow

theorem cancelledAt_iff (order : InOrder origin events now) (apart : Apart p origin events)
    (ran : run p (.opened p origin gone) events = some ⟨.copying c, false⟩) :
    (c.timer.advance now).cancelledAt = some t ↔
      t ≤ now ∧ IsLeast {t | Silent (moments (phase p origin events).later)
        (phase p origin events).since (phase p origin events).length t} t := by
  rcases phase_cases ran with ⟨stays, whole⟩ | ⟨side, before, b, later, rfl, stays, part⟩
  · rw [whole]
    exact cancelledAt_iff_of_open order (fun side => closing?_eq_none.1 (stays side)) ran
  · rw [part]
    obtain ⟨heard, timer⟩ := timer_of_unheard now ran
    obtain ⟨front, back⟩ := order.cons_inv
    have staysBefore : ∀ own, ∀ x ∈ before, x.2.closes own = false := fun own x member =>
      stays own x (List.mem_append_left _ member)
    have running := running_of_closed front staysBefore apart ran
    have timed_eq : timed p (before ++ (b, .copied side .halfClosed) :: later) =
        timed p before ++ (b, .setTimeout (p.grace side).ceilMillis) :: timed p later := by
      simp [timed, timerEvent]
    rw [timer, timed_eq]
    by_cases zero : (p.grace side).ceilMillis = 0
    · rw [zero, ActivityTimer.cancelledAt_of_zero running]
      simp only [silent_zero]
      have := back.origin_le
      constructor
      · rintro ⟨⟩
        exact ⟨this, rfl, fun t here => Nat.le_of_eq here.symm⟩
      · rintro ⟨-, rfl, -⟩
        rfl
    · rw [ActivityTimer.cancelledAt_iff_of_set _ running zero, updates_timed]
      · exact timed_quiet (fun own x member => stays own x (List.mem_append_right _ member))
          fun x member => heard x (List.mem_append_right _ (List.mem_cons_of_mem _ member))
      · rw [← timed_eq]
        exact inOrder_timed.2 order

/-! ## The end of a relay -/

theorem step_notice : step p ⟨.copying c, gone⟩ now .notice =
    if (c.timer.advance now).cancelledAt = some now then
      some ⟨finish now { c with timer := c.timer.advance now }
        (if gone then .error interrupted else .ok ()), gone⟩
    else none := rfl

theorem step_over (expired : (c.timer.advance now).cancelledAt = some t) (sooner : t < now) :
    step p ⟨.copying c, gone⟩ now e = none := by
  have isOver : isOver now { c with timer := c.timer.advance now } = true := by
    simp [Relay.isOver, expired, sooner]
  cases e with
  | notice =>
      rw [step_notice, if_neg]
      rw [expired]
      rintro ⟨⟩
      exact Nat.lt_irrefl _ sooner
  | cancel | copied => simp [step, advance, isOver]
  | opened r => cases r <;> rfl

def silences (ph : Phase Event) : Set Nat :=
  {t | Silent (moments ph.later) ph.since ph.length t}

/-- What silence does to a relay that copies, in a phase of it. -/
structure Governed (p : SessionPolicy) (ph : Phase Event) (c : Copies) (now : Nat) : Prop where
  /-- It ends the relay with the first silent check of the phase. -/
  exact : (step p ⟨.copying c, false⟩ now .notice).isSome ↔ IsLeast (silences ph) now
  ends : ∀ s, step p ⟨.copying c, false⟩ now .notice = some s →
    ∃ left, s = ⟨.ended now (.ok ()) left, false⟩
  /-- After that check nothing else happens. -/
  final : ∀ t < now, IsLeast (silences ph) t → ∀ e, step p ⟨.copying c, false⟩ now e = none

theorem silence_governed {d : Destination} {asked : Nat}
    (ran : run p (.start asked d gone) (before ++ (origin, .opened (.ok ())) :: events) =
      some ⟨.copying c, false⟩)
    (order : InOrder origin events now) (apart : Apart p origin events) :
    Governed p (phase p origin events) c now := by
  have ended_iff (t : Nat) : (c.timer.advance now).cancelledAt = some t ↔
      t ≤ now ∧ IsLeast (silences (phase p origin events)) t :=
    cancelledAt_iff order apart (run_of_opened ran)
  refine ⟨?_, fun s noticed => ?_, fun t sooner least e => ?_⟩
  · rw [step_notice, Option.isSome_ite, ended_iff]
    exact and_iff_right (Nat.le_refl now)
  · rw [step_notice, Option.ite_none_right_eq_some] at noticed
    obtain ⟨-, ⟨⟩⟩ := noticed
    exact ⟨_, rfl⟩
  · exact step_over ((ended_iff t).2 ⟨Nat.le_of_lt sooner, least⟩) sooner

def fadingAnswer : List (Nat × Event) := [
  (3, .copied .request .eof),
  (4, .copied .request .halfClosed),
  (10, .copied .response (.chunk [7]))]

def shortPolicy : SessionPolicy := ⟨.ofMillis 20, .ofMillis 50, .ofMillis 30⟩

theorem silence_governed_fading : ∃ c,
    run shortPolicy (.start 0 (.tcp "host" 80) false) ([] ++ (2, .opened (.ok ())) :: fadingAnswer) =
      some ⟨.copying c, false⟩ ∧
    InOrder 2 fadingAnswer 64 ∧ Apart shortPolicy 2 fadingAnswer ∧
    phase shortPolicy 2 fadingAnswer = ⟨4, 30, [(10, .copied .response (.chunk [7]))]⟩ ∧
    IsLeast (silences (phase shortPolicy 2 fadingAnswer)) 64 := by
  obtain ⟨c, ran, noticed⟩ : ∃ c,
      run shortPolicy (.start 0 (.tcp "host" 80) false) ([] ++ (2, .opened (.ok ())) :: fadingAnswer) =
        some ⟨.copying c, false⟩ ∧
      (step shortPolicy ⟨.copying c, false⟩ 64 .notice).isSome := ⟨_, rfl, rfl⟩
  have order : InOrder 2 fadingAnswer 64 := by simp [fadingAnswer]
  have apart : Apart shortPolicy 2 fadingAnswer := by decide
  exact ⟨c, ran, order, apart, rfl, (silence_governed ran order apart).exact.1 noticed⟩

end Relay

end GatewayTunnel
