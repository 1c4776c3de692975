import GatewayTunnel.Proofs.Relay.Silence

/-!
# What a relay ends with

What happens to a relay whose channel is open is a list of signals: a call of a direction returns, the
caller gives up, or the end of the timer is found. `Decides` says by the signals alone when there is a
reason for the relay to end, and which. The first reason concludes the relay if there is no other one
at its time, and every relay that has ended had a reason: `outcome_decided`. How the closing of a sink
went is no part of that.
-/

namespace GatewayTunnel

namespace Copy

/-- The error of a read, a write or a flush that failed. A sink that takes nothing has failed. -/
def Reply.failure? : Reply → Option IoError
  | read (.error e) | write (.error e) | flush (.error e) => some e
  | write (.ok 0) => some (.bare .writeZero)
  | _ => none

def Input.failure? : Input → Option IoError
  | readFailed e | writeFailed e | flushFailed e => some e
  | accepted 0 => some (.bare .writeZero)
  | _ => none

theorem Reply.failure?_input {reply : Reply} : reply.input.failure? = reply.failure? := by
  rcases reply with (_ | _ | _) | (_ | _ | _) | (_ | _) | _ <;> rfl

theorem Reply.eq_of_input_halfClosed {reply : Reply} (closed : reply.input = .halfClosed) :
    ∃ r, reply = .shutdown r := by
  rcases reply with (_ | _ | _) | (_ | _) | (_ | _) | r
  case shutdown => exact ⟨r, rfl⟩
  all_goals cases closed

theorem failed_iff {c c' : Copy} {i : Input} {e : IoError} (answer : c.step i = some c') :
    c' = .ended (.error e) ↔ i.failure? = some e := by
  unfold step at answer
  split at answer
  case h_1 =>
    split at answer
    · cases answer
      simp [Input.failure?]
    · cases answer
  case h_5 bound positive =>
    have goesOn : (Input.accepted bound).failure? = none := by
      cases bound with
      | zero => exact absurd rfl positive
      | succ bound => rfl
    split at answer <;> cases answer <;> simp [goesOn]
  all_goals cases answer
  all_goals simp [Input.failure?]

end Copy

namespace Relay

variable {p : SessionPolicy} {c : Copies} {s : State} {now origin t u : Nat} {gone gone' : Bool}
  {side : Side}

inductive Signal where
  | replied (side : Side) (reply : Copy.Reply)
  | cancel
  | notice

def Signal.event : Signal → Event
  | replied side reply => .copied side reply.input
  | cancel => .cancel
  | notice => .notice

def played (signals : List (Nat × Signal)) : List (Nat × Event) :=
  signals.map fun x => (x.1, x.2.event)

inductive Verdict where
  | finished
  | failed (e : IoError)
  | silent
  | interrupted

def Verdict.result : Verdict → Except TunnelError Unit
  | finished | silent => .ok ()
  | failed e => .error (.relay e)
  | interrupted => .error Relay.interrupted

variable {signals before after : List (Nat × Signal)} {v : Verdict}

/-- At a time there is a reason for a relay to end. The caller may have given up before the channel was
open, at `origin`. -/
inductive Decides (p : SessionPolicy) (origin : Nat) (gone : Bool) (signals : List (Nat × Signal))
    (t : Nat) : Verdict → Prop where
  | finished {side : Side} {u : Nat} {r r' : Except IoError Unit} :
      (t, .replied side (.shutdown r)) ∈ signals →
      (u, .replied side.other (.shutdown r')) ∈ signals → u ≤ t →
      Decides p origin gone signals t .finished
  | failed {side : Side} {reply : Copy.Reply} {e : IoError} : (t, .replied side reply) ∈ signals →
      reply.failure? = some e → Decides p origin gone signals t (.failed e)
  /-- The timer that the replies have made ends, with a direction still open and nobody giving up. -/
  | silent {before after : List (Nat × Signal)} {side : Side} : signals = before ++ after →
      InOrder origin before t → (∀ x ∈ after, t ≤ x.1) → closing? side (played before) = none →
      gone = false → (∀ x ∈ before, x.2 ≠ .cancel) →
      (ActivityTimer.observed origin p.connectionIdle.ceilMillis (timed p (played before))
        t).cancelledAt = some t → Decides p origin gone signals t .silent
  | interrupted : (t, .cancel) ∈ signals → Decides p origin gone signals t .interrupted
  | gone : gone = true → t = origin → Decides p origin gone signals t .interrupted

/-! ## Signals and events -/

theorem mem_played {e : Event} (member : (t, e) ∈ played signals) :
    ∃ signal, (t, signal) ∈ signals ∧ signal.event = e := by
  obtain ⟨⟨u, signal⟩, listed, same⟩ := List.mem_map.1 member
  cases same
  exact ⟨signal, listed, rfl⟩

theorem mem_signals_of_copied {input : Copy.Input}
    (member : (t, .copied side input) ∈ played signals) :
    ∃ reply, (t, .replied side reply) ∈ signals ∧ reply.input = input := by
  obtain ⟨signal, listed, same⟩ := mem_played member
  cases signal with
  | replied own reply =>
      cases same
      exact ⟨reply, listed, rfl⟩
  | cancel | notice => cases same

theorem mem_signals_of_halfClosed (member : (t, .copied side .halfClosed) ∈ played signals) :
    ∃ r, (t, .replied side (.shutdown r)) ∈ signals := by
  obtain ⟨reply, listed, same⟩ := mem_signals_of_copied member
  obtain ⟨r, rfl⟩ := Copy.Reply.eq_of_input_halfClosed same
  exact ⟨r, listed⟩

theorem mem_played_of_mem {signal : Signal} (member : (t, signal) ∈ signals) :
    (t, signal.event) ∈ played signals :=
  List.mem_map_of_mem member

theorem inOrder_played : InOrder origin (played signals) now ↔ InOrder origin signals now :=
  inOrder_map _

theorem played_append : played (before ++ after) = played before ++ played after :=
  List.map_append

theorem forall_times {q : Nat → Prop} (all : ∀ x ∈ signals, q x.1) :
    ∀ x ∈ timed p (played signals), q x.1 := by
  simp only [timed, played, List.forall_mem_map]
  exact all

/-! ## A relay that still copies -/

theorem unfailed_of_run {reply : Copy.Reply}
    (ran : run p (.opened p origin gone) (played signals) = some ⟨.copying c, gone'⟩)
    (member : (t, .replied side reply) ∈ signals) : reply.failure? = none := by
  obtain ⟨front, back, split⟩ := List.append_of_mem (mem_played_of_mem member)
  rw [split] at ran
  obtain ⟨c₁, gone₁, -, rest⟩ := run_append_copying ran
  obtain ⟨s, first, others⟩ := Option.bind_eq_some_iff.1 rest
  cases failure : reply.failure? with
  | none => rfl
  | some e =>
      have failing := Copy.Reply.failure?_input.trans failure
      cases Transition.of_step first with
      | @moved _ _ _ copy _ _ answer result =>
          rw [(Copy.failed_iff answer).2 failing] at result
          cases result
      | @ended _ _ _ r copying _ answer =>
          obtain rfl : r = .error e := by simpa using (Copy.failed_iff answer).2 failing
          cases (run_ended rfl others).1

theorem open_of_run
    (ran : run p (.opened p origin gone) (played signals) = some ⟨.copying c, gone'⟩) :
    ∃ side, ∀ t r, (t, .replied side (.shutdown r)) ∉ signals := by
  obtain ⟨side, opens⟩ := exists_open ran
  refine ⟨side, fun t r member => ?_⟩
  obtain ⟨front, back, split⟩ := List.append_of_mem (mem_played_of_mem member)
  obtain ⟨⟨n, ended⟩, -⟩ := closed_once (split ▸ ran)
  exact opens n ended

theorem due_of_silent {front back : List (Nat × Signal)} (split : before ++ after = front ++ back)
    (order : InOrder origin front t) (since : ∀ x ∈ back, t ≤ x.1) (later : ∀ x ∈ after, t < x.1)
    (expired : (ActivityTimer.observed origin p.connectionIdle.ceilMillis (timed p (played front))
      t).cancelledAt = some t) :
    ActivityTimer.Due origin p.connectionIdle.ceilMillis (timed p (played before)) t := by
  obtain ⟨-, due, -⟩ :=
    (ActivityTimer.cancelledAt_iff (inOrder_timed.2 (inOrder_played.2 order))).1 expired
  have whole : ActivityTimer.Due origin p.connectionIdle.ceilMillis
      (timed p (played (before ++ after))) t := by
    rw [split, played_append, timed_append]
    exact (ActivityTimer.due_append (forall_times since)).2 (.inl due)
  have notNow : ∀ x ∈ timed p (played after), t < x.1 := forall_times later
  rw [played_append, timed_append,
    ActivityTimer.due_append fun x member => Nat.le_of_lt (notNow x member)] at whole
  rcases whole with old | ⟨e, new, -⟩
  · exact old
  · exact absurd (notNow _ new) (Nat.lt_irrefl t)

theorem ended_of_decides (order : InOrder origin before now) (upTo : t ≤ now)
    (ran : run p (.opened p origin gone) (played before) = some ⟨.copying c, gone'⟩)
    (later : ∀ x ∈ after, t < x.1) (decides : Decides p origin gone (before ++ after) t v) :
    ∃ u ≤ t, (c.timer.advance now).cancelledAt = some u := by
  have here {u : Nat} {signal : Signal} (bound : u ≤ t) (member : (u, signal) ∈ before ++ after) :
      (u, signal) ∈ before := by
    rcases List.mem_append.1 member with old | new
    · exact old
    · exact absurd (later _ new) (Nat.not_lt.2 bound)
  have ended (due : ActivityTimer.Due origin p.connectionIdle.ceilMillis
      (history p origin gone (played before)) t) :
      ∃ u ≤ t, (c.timer.advance now).cancelledAt = some u := by
    rw [timer_of_run now ran]
    exact ActivityTimer.ended_of_due (inOrder_history (inOrder_played.2 order)) due upTo
  cases decides with
  | @finished side u r r' own other bound =>
      obtain ⟨side', opens⟩ := open_of_run ran
      by_cases same : side' = side
      · subst same
        exact absurd (here (Nat.le_refl t) own) (opens t r)
      · obtain rfl := Side.eq_other same
        exact absurd (here bound other) (opens u r')
  | failed member failure =>
      rw [unfailed_of_run ran (here (Nat.le_refl t) member)] at failure
      cases failure
  | interrupted member =>
      have cancelled := mem_played_of_mem (here (Nat.le_refl t) member)
      exact ended (.stopped (List.mem_append_right _ (List.mem_map_of_mem cancelled)) rfl)
  | gone given begun => exact ended (.stopped (e := .cancel) (by simp [history, given, begun]) rfl)
  | @silent front back side split orderFront since opens unheard heard expired =>
      subst unheard
      exact ended (due_of_silent split orderFront since later expired)

theorem least_of_ended_timer (order : InOrder origin signals now)
    (ran : run p (.opened p origin gone) (played signals) = some ⟨.copying c, gone'⟩)
    (ended : (c.timer.advance now).cancelledAt = some t) :
    InOrder origin signals t ∧ IsLeast {u | ActivityTimer.Due origin p.connectionIdle.ceilMillis
      (history p origin gone (played signals)) u} t := by
  have earlier : ∀ x ∈ signals, x.1 ≤ t := fun x member =>
    times_le_of_ended (inOrder_played.2 order) ran ended _ (mem_played_of_mem member)
  have orderHistory : InOrder origin (history p origin gone (played signals)) now :=
    inOrder_history (inOrder_played.2 order)
  obtain ⟨-, least⟩ := (ActivityTimer.cancelledAt_iff orderHistory).1 (timer_of_run now ran ▸ ended)
  have begun : origin ≤ t :=
    ActivityTimer.origin_le_of_due (fun x member => (orderHistory.of_mem member).1) least.1
  exact ⟨order.shrink begun earlier, least⟩

theorem interrupted_of_ended_timer (order : InOrder origin signals now)
    (ran : run p (.opened p origin gone) (played signals) = some ⟨.copying c, true⟩)
    (ended : (c.timer.advance now).cancelledAt = some t) :
    Decides p origin gone signals t .interrupted := by
  obtain ⟨orderAll, -, least⟩ := least_of_ended_timer order ran ended
  -- giving up has ended the timer, and nothing comes after its end
  rcases Bool.or_eq_true_iff.1 (run_copying ran).1.symm with rfl | heard
  · have upTo : t ≤ origin := least (.stopped (e := .cancel) (by simp [history]) rfl)
    exact .gone rfl (Nat.le_antisymm upTo orderAll.origin_le)
  · obtain ⟨⟨u, e⟩, member, cancels⟩ := List.any_eq_true.1 heard
    obtain ⟨signal, listed, rfl⟩ := mem_played member
    cases signal with
    | cancel =>
        have upTo : t ≤ u := least (.stopped
          (List.mem_append_right _ (List.mem_map_of_mem member)) rfl)
        obtain rfl : t = u := Nat.le_antisymm upTo (orderAll.of_mem listed).2
        exact .interrupted listed
    | replied | notice => cases cancels

theorem silent_of_ended_timer (order : InOrder origin signals now)
    (ran : run p (.opened p origin gone) (played signals) = some ⟨.copying c, false⟩)
    (ended : (c.timer.advance now).cancelledAt = some t) :
    Decides p origin gone signals t .silent := by
  obtain ⟨orderAll, -⟩ := least_of_ended_timer order ran ended
  obtain ⟨rfl, unheard⟩ := Bool.or_eq_false_iff.1 (run_copying ran).1.symm
  obtain ⟨side, opens⟩ := open_of_run ran
  have stays : closing? side (played signals) = none := by
    refine closing?_eq_none.2 fun x member => eq_false_of_ne_true fun closes => ?_
    obtain ⟨u, e⟩ := x
    obtain rfl := Event.eq_of_closes closes
    obtain ⟨r, closed⟩ := mem_signals_of_halfClosed member
    exact opens u r closed
  have notCancel : ∀ x ∈ signals, x.2 ≠ .cancel := by
    rintro ⟨u, signal⟩ member rfl
    exact List.any_eq_false.1 unheard _ (mem_played_of_mem member) rfl
  have expired := ActivityTimer.advance_end ended
  rw [timer_of_run t ran] at expired
  exact .silent (List.append_nil _).symm orderAll (List.forall_mem_nil _) stays rfl notCancel expired

def Verdict.ofTimer (gone : Bool) : Verdict :=
  if gone then .interrupted else .silent

theorem result_ofTimer :
    (Verdict.ofTimer gone).result = if gone then .error Relay.interrupted else .ok () := by
  cases gone <;> rfl

theorem decides_of_ended_timer (order : InOrder origin signals now)
    (ran : run p (.opened p origin gone) (played signals) = some ⟨.copying c, gone'⟩)
    (ended : (c.timer.advance now).cancelledAt = some t) :
    Decides p origin gone signals t (.ofTimer gone') := by
  cases gone' with
  | true => exact interrupted_of_ended_timer order ran ended
  | false => exact silent_of_ended_timer order ran ended

theorem Decides.append (decides : Decides p origin gone before t v)
    (since : ∀ x ∈ after, t ≤ x.1) :
    Decides p origin gone (before ++ after) t v := by
  cases decides with
  | finished own other bound =>
      exact .finished (List.mem_append_left _ own) (List.mem_append_left _ other) bound
  | failed member failure => exact .failed (List.mem_append_left _ member) failure
  | interrupted member => exact .interrupted (List.mem_append_left _ member)
  | gone given begun => exact .gone given begun
  | @silent front back side split orderFront since' opens unheard heard expired =>
      have longer : before ++ after = front ++ (back ++ after) := by rw [split, List.append_assoc]
      have sinceAll := List.forall_mem_append.2 ⟨since', since⟩
      exact .silent longer orderFront sinceAll opens unheard heard expired

theorem closed_of_run {n : Nat}
    (ran : run p (.opened p origin gone) (played signals) = some ⟨.copying c, gone'⟩)
    (ended : c.side side = .ended (.ok n)) : ∃ u r, (u, .replied side (.shutdown r)) ∈ signals := by
  have own : Copy.start.run (answers side (played signals)) = some (.ended (.ok n)) :=
    ended ▸ copy_of_run ran side
  obtain ⟨front, input, d, answers_eq, -, last⟩ := Copy.run_last own nofun
  obtain rfl := input_of_ended last
  have answered : .halfClosed ∈ answers side (played signals) := by simp [answers_eq]
  obtain ⟨⟨u, e⟩, member, answer⟩ := List.mem_filterMap.1 answered
  obtain rfl : e = .copied side .halfClosed := Event.eq_of_closes (decide_eq_true answer)
  obtain ⟨r, closed⟩ := mem_signals_of_halfClosed member
  exact ⟨u, r, closed⟩

theorem decides_of_ending {x : Nat × Signal} {r : Except TunnelError Unit}
    (order : InOrder origin (before ++ x :: after) now)
    (ran : run p (.opened p origin gone) (played before) = some ⟨.copying c, gone'⟩)
    (ending : Ending c gone' x.1 x.2.event r) :
    ∃ v, Decides p origin gone (before ++ x :: after) x.1 v ∧ v.result = r := by
  obtain ⟨orderFront, orderBack⟩ := order.cons_inv
  have now_played : (x.1, x.2.event) ∈ played (before ++ x :: after) :=
    mem_played_of_mem (by simp)
  generalize x.2.event = e at ending now_played
  cases ending with
  | failed answer =>
      obtain ⟨reply, member, rfl⟩ := mem_signals_of_copied now_played
      have failure := (Copy.failed_iff answer).1 rfl
      rw [Copy.Reply.failure?_input] at failure
      exact ⟨_, .failed member failure, rfl⟩
  | finished _ others =>
      obtain ⟨r, own⟩ := mem_signals_of_halfClosed now_played
      obtain ⟨u, r', other⟩ := closed_of_run ran others
      exact ⟨_, .finished own (List.mem_append_left _ other) (orderFront.of_mem other).2, rfl⟩
  | noticed expired =>
      have since : ∀ y ∈ x :: after, x.1 ≤ y.1 :=
        List.forall_mem_cons.2 ⟨Nat.le_refl _, fun y member => (orderBack.of_mem member).1⟩
      exact ⟨_, (decides_of_ended_timer orderFront ran expired).append since, result_ofTimer⟩

/-! ## The end of a relay -/

/-- A relay has ended as given, or it will end so at the given time, whatever happens. -/
inductive Concluded (p : SessionPolicy) (t : Nat) (r : Except TunnelError Unit) : State → Prop where
  | ended {left : Option Copies} {gone : Bool} : Concluded p t r ⟨.ended t r left, gone⟩
  | due {c : Copies} {gone : Bool} :
      (∃ left, step p ⟨.copying c, gone⟩ t .notice = some ⟨.ended t r left, gone⟩) →
      (∀ later > t, ∀ e, step p ⟨.copying c, gone⟩ later e = none) →
      Concluded p t r ⟨.copying c, gone⟩

theorem run_played (ran : run p (.opened p origin gone) (played signals) = some s) :
    (∃ c gone', s = ⟨.copying c, gone'⟩) ∨
      ∃ before x after c gone' r left gone'', signals = before ++ x :: after ∧
        run p (.opened p origin gone) (played before) = some ⟨.copying c, gone'⟩ ∧
        (∀ t, (c.timer.advance x.1).cancelledAt = some t → x.1 ≤ t) ∧
        Ending c gone' x.1 x.2.event r ∧ s = ⟨.ended x.1 r left, gone''⟩ := by
  rcases run_ending ran with copying | ⟨front, y, back, c, gone', r, left, gone'', split, rest⟩
  · exact .inl copying
  · obtain ⟨before, others, rfl, rfl, remain⟩ := List.map_eq_append_iff.1 split
    obtain ⟨x, after, rfl, rfl, -⟩ := List.map_eq_cons_iff.1 remain
    exact .inr ⟨before, x, after, c, gone', r, left, gone'', rfl, rest⟩

theorem decides_of_ended {r : Except TunnelError Unit} {left : Option Copies}
    (order : InOrder origin signals now)
    (ran : run p (.opened p origin gone) (played signals) = some s)
    (ended : s.relay = .ended t r left) :
    ∃ v, Decides p origin gone signals t v ∧ v.result = r := by
  rcases run_played ran with ⟨c, gone', rfl⟩ |
    ⟨before, x, after, c, gone', r, left, gone'', rfl, front, -, ending, rfl⟩
  · cases ended
  · cases ended
    exact decides_of_ending order front ending

theorem concluded_of_first (order : InOrder origin signals now) (upTo : t ≤ now)
    (ran : run p (.opened p origin gone) (played signals) = some s)
    (decides : Decides p origin gone signals t v)
    (first : ∀ t' v', t' ≤ t → Decides p origin gone signals t' v' → t' = t ∧ v' = v) :
    Concluded p t v.result s := by
  rcases run_played ran with ⟨c, gone', rfl⟩ |
    ⟨before, x, after, c, gone', r, left, gone'', rfl, front, inTime, ending, rfl⟩
  · have whole : Decides p origin gone (signals ++ []) t v := by rwa [List.append_nil]
    obtain ⟨u, sooner, ended⟩ := ended_of_decides order upTo ran (List.forall_mem_nil _) whole
    obtain ⟨rfl, rfl⟩ := first u _ sooner (decides_of_ended_timer order ran ended)
    have expired := ActivityTimer.advance_end ended
    refine .due ?_ fun later after e => ?_
    · rw [step_notice, if_pos expired, result_ofTimer]
      exact ⟨_, rfl⟩
    · refine step_over ?_ after
      rw [← ActivityTimer.advance_advance (Nat.le_of_lt after), ActivityTimer.advance_of_ended expired]
      exact expired
  · obtain ⟨v', reason, result⟩ := decides_of_ending order front ending
    obtain ⟨orderFront, orderBack⟩ := order.cons_inv
    have notLater : x.1 ≤ t := by
      -- otherwise the reason had ended the timer before the signal that ended the relay
      refine Nat.le_of_not_lt fun after => ?_
      have since : ∀ y ∈ x :: _, t < y.1 := List.forall_mem_cons.2
        ⟨after, fun y member => Nat.lt_of_lt_of_le after (orderBack.of_mem member).1⟩
      obtain ⟨u, sooner, ended⟩ :=
        ended_of_decides orderFront (Nat.le_of_lt after) front since decides
      exact Nat.lt_irrefl _ (Nat.lt_of_le_of_lt (Nat.le_trans (inTime u ended) sooner) after)
    obtain ⟨rfl, rfl⟩ := first x.1 _ notLater reason
    rw [result]
    exact .ended

/-! ## The closing of the sinks -/

def Signal.wellClosed : Signal → Signal
  | replied side (.shutdown _) => .replied side (.shutdown (.ok ()))
  | signal => signal

def wellClosed (signals : List (Nat × Signal)) : List (Nat × Signal) :=
  signals.map fun x => (x.1, x.2.wellClosed)

theorem Signal.event_wellClosed (signal : Signal) : signal.wellClosed.event = signal.event := by
  unfold wellClosed
  split <;> rfl

theorem played_wellClosed : played (wellClosed signals) = played signals := by
  simp [played, wellClosed, Signal.event_wellClosed]

/-! ## The judgement -/

/-- What the signals say about the end of a relay, which is in the given state. -/
structure Judged (p : SessionPolicy) (origin : Nat) (gone : Bool) (signals : List (Nat × Signal))
    (now : Nat) (s : State) : Prop where
  /-- The first reason concludes the relay, if it is the only one at its time. -/
  concluded : ∀ t v, t ≤ now → Decides p origin gone signals t v →
    (∀ t' v', t' ≤ t → Decides p origin gone signals t' v' → t' = t ∧ v' = v) →
    Concluded p t v.result s
  /-- The relay does not end without a reason. -/
  decided : ∀ t r left, s.relay = .ended t r left →
    ∃ v, Decides p origin gone signals t v ∧ v.result = r
  /-- How the closing of the sinks went does not matter. -/
  closings : ∀ signals', wellClosed signals' = wellClosed signals →
    run p (.opened p origin gone) (played signals') = some s

theorem outcome_decided {d : Destination} {asked : Nat} {front : List (Nat × Event)}
    (ran : run p (.start asked d gone) (front ++ (origin, .opened (.ok ())) :: played signals) =
      some s)
    (order : InOrder origin signals now) :
    Judged p origin (gone || front.any (·.2.isCancel)) signals now s := by
  have opened := run_of_opened ran
  refine ⟨fun t v upTo decides first => concluded_of_first order upTo opened decides first,
    fun t r left ended => decides_of_ended order opened ended, fun signals' same => ?_⟩
  rwa [← played_wellClosed, same, played_wellClosed]

def brokenUpload : List (Nat × Signal) := [
  (7, .replied .request (.read (.error (.bare .connectionReset))))]

def strictPolicy : SessionPolicy := ⟨.ofMillis 20, .ofMillis 0, .ofMillis 0⟩

theorem decides_brokenUpload (upTo : t ≤ 7)
    (decides : Decides strictPolicy 2 false brokenUpload t v) :
    t = 7 ∧ v = .failed (.bare .connectionReset) := by
  cases decides with
  | finished own => simp [brokenUpload] at own
  | failed member failure =>
      simp only [brokenUpload, List.mem_singleton, Prod.mk.injEq, Signal.replied.injEq] at member
      obtain ⟨rfl, rfl, rfl⟩ := member
      cases failure
      exact ⟨rfl, rfl⟩
  | interrupted member => simp [brokenUpload] at member
  | gone given => cases given
  | @silent front back side split orderFront _ _ _ _ expired =>
      have quiet : ∀ x ∈ timed strictPolicy (played front), x.2.isQuiet := by
        have whole : ∀ x ∈ timed strictPolicy (played (front ++ back)), x.2.isQuiet := by
          rw [← split]
          decide
        intro x member
        rw [played_append, timed_append] at whole
        exact whole x (List.mem_append_left _ member)
      obtain ⟨-, silent, -⟩ := (ActivityTimer.cancelledAt_iff_of_unchanged
        (inOrder_timed.2 (inOrder_played.2 orderFront)) quiet).1 expired
      have late : 2 + 20 ≤ t := silent.le
      omega

theorem outcome_decided_broken : ∃ s,
    run strictPolicy (.start 0 (.tcp "host" 80) false)
      ([] ++ (2, .opened (.ok ())) :: played brokenUpload) = some s ∧
    InOrder 2 brokenUpload 7 ∧
    Decides strictPolicy 2 false brokenUpload 7 (.failed (.bare .connectionReset)) ∧
    Concluded strictPolicy 7 (.error (.relay (.bare .connectionReset))) s := by
  obtain ⟨s, ran⟩ : ∃ s, run strictPolicy (.start 0 (.tcp "host" 80) false)
      ([] ++ (2, .opened (.ok ())) :: played brokenUpload) = some s := ⟨_, rfl⟩
  have order : InOrder 2 brokenUpload 7 := by simp [brokenUpload]
  have broken : (7, .replied .request (.read (.error (.bare .connectionReset)))) ∈ brokenUpload :=
    List.mem_cons_self
  have decides : Decides strictPolicy 2 false brokenUpload 7 (.failed (.bare .connectionReset)) :=
    .failed broken rfl
  exact ⟨s, ran, order, decides, (outcome_decided ran order).concluded 7 _ (Nat.le_refl 7) decides
    fun t v => decides_brokenUpload⟩

end Relay

end GatewayTunnel
