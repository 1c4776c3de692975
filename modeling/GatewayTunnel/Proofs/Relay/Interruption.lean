import GatewayTunnel.Proofs.Relay.Outcome

/-!
# A caller that gives up

A relay whose channel is open ends as soon as the caller gives up. One that still waits for its channel
goes on waiting: it ends when the gateway answers, and a refusal is what it ends with, as if the caller
were still there. `interrupted_once_open` says both, of every run.
-/

namespace GatewayTunnel

theorem Copy.exists_reply {c c' : Copy} {i : Copy.Input} (answer : c.step i = some c') :
    ∃ reply : Copy.Reply, reply.input = i := by
  cases i with
  | chunk bs =>
      cases bs with
      | nil => cases c <;> cases answer
      | cons b bs => exact ⟨.read (.ok (b :: bs)), rfl⟩
  | eof => exact ⟨.read (.ok []), rfl⟩
  | readFailed e => exact ⟨.read (.error e), rfl⟩
  | accepted bound => exact ⟨.write (.ok bound), rfl⟩
  | writeFailed e => exact ⟨.write (.error e), rfl⟩
  | flushed => exact ⟨.flush (.ok ()), rfl⟩
  | flushFailed e => exact ⟨.flush (.error e), rfl⟩
  | halfClosed => exact ⟨.shutdown (.ok ()), rfl⟩

namespace Relay

variable {p : SessionPolicy} {s s' : State} {d : Destination} {asked c now opening : Nat} {gone : Bool}
  {e : Event} {events front : List (Nat × Event)} {signals : List (Nat × Signal)}

/-! ## What can happen when -/

theorem start_of_stream (stream : d.checkStream = .ok ()) :
    State.start asked d gone = ⟨.opening, gone⟩ := by
  simp only [State.start, stream]

theorem opening_cases (ran : run p ⟨.opening, gone⟩ events = some s) :
    (s.relay = .opening ∧ ∀ x ∈ events, x.2 = .cancel) ∨
      ∃ front t r after, events = front ++ (t, .opened r) :: after ∧ (∀ x ∈ front, x.2 = .cancel) ∧
        ∀ failure, r = .error failure → s.relay = .ended t (.error failure) none := by
  induction events generalizing gone with
  | nil =>
      cases ran
      exact .inl ⟨rfl, List.forall_mem_nil _⟩
  | cons x rest ih =>
      obtain ⟨t, e⟩ := x
      obtain ⟨s₁, first, others⟩ := Option.bind_eq_some_iff.1 ran
      cases Transition.of_step first with
      | opened => exact .inr ⟨[], t, _, rest, rfl, List.forall_mem_nil _, nofun⟩
      | refused =>
          refine .inr ⟨[], t, _, rest, rfl, List.forall_mem_nil _, fun failure same => ?_⟩
          cases same
          exact (run_ended rfl others).1
      | unheard =>
          rcases ih others with ⟨waits, cancels⟩ | ⟨front, t', r, after, rfl, cancels, refused⟩
          · exact .inl ⟨waits, List.forall_mem_cons.2 ⟨rfl, cancels⟩⟩
          · exact .inr ⟨(t, .cancel) :: front, t', r, after, rfl,
              List.forall_mem_cons.2 ⟨rfl, cancels⟩, refused⟩
      | heard copying | moved copying | ended copying | noticed copying => cases copying

theorem exists_signal (h : step p s now e = some s') (open' : s.relay ≠ .opening) :
    s'.relay ≠ .opening ∧ ∃ signal : Signal, signal.event = e := by
  have waits : s.relay.advance now ≠ .opening := by
    cases relay : s.relay with
    | opening => exact absurd relay open'
    | copying | ended => rintro ⟨⟩
  cases Transition.of_step h with
  | opened closed | refused closed => exact absurd closed waits
  | unheard => exact ⟨open', .cancel, rfl⟩
  | heard => exact ⟨by rintro ⟨⟩, .cancel, rfl⟩
  | noticed => exact ⟨by rintro ⟨⟩, .notice, rfl⟩
  | @moved _ side _ _ _ _ answer =>
      obtain ⟨reply, rfl⟩ := Copy.exists_reply answer
      exact ⟨by rintro ⟨⟩, .replied side reply, rfl⟩
  | @ended c side input r _ _ answer =>
      obtain ⟨reply, rfl⟩ := Copy.exists_reply answer
      refine ⟨?_, .replied side reply, rfl⟩
      cases r with
      | error => rintro ⟨⟩
      | ok n =>
          simp only [afterEnd]
          split <;> rintro ⟨⟩

theorem exists_played (ran : run p s events = some s') (open' : s.relay ≠ .opening) :
    ∃ signals, events = played signals := by
  induction events generalizing s with
  | nil => exact ⟨[], rfl⟩
  | cons x rest ih =>
      obtain ⟨s₁, first, others⟩ := Option.bind_eq_some_iff.1 ran
      obtain ⟨still, signal, same⟩ := exists_signal first open'
      obtain ⟨signals, rfl⟩ := ih others still
      exact ⟨(x.1, signal) :: signals, by simp [played, same]⟩

theorem relay_of_ended {left : Copies} {failure : TunnelError} {flag : Bool}
    (ran : run p (.start asked d gone) events =
      some ⟨.ended now (.error failure) (some left), flag⟩) :
    ∃ cause, failure = .relay cause := by
  cases stream : d.checkStream with
  | error e =>
      have never : (State.start asked d gone).relay = .ended asked (.error e) none := by
        simp only [State.start, stream]
      cases (run_ended never ran).1
  | ok =>
      have begun := ran
      rw [start_of_stream stream] at begun
      rcases opening_cases begun with ⟨waits, -⟩ | ⟨front, t, r, after, rfl, -, refused⟩
      · cases waits
      · cases r with
        | error e => cases refused e rfl
        | ok =>
            rcases run_ending (run_of_opened ran) with ⟨c', gone', still⟩ |
              ⟨-, x, -, c', gone', r, left', gone'', -, -, -, ending, last⟩
            · cases still
            · generalize x.2 = e at ending
              cases last
              generalize ended : Except.error failure = r at ending
              cases ending with
              | failed =>
                  cases ended
                  exact ⟨_, rfl⟩
              | finished => cases ended
              | noticed =>
                  split at ended
                  · cases ended
                    exact ⟨_, rfl⟩
                  · cases ended

/-! ## Giving up -/

def givenUp (asked : Nat) (gone : Bool) (events : List (Nat × Event)) : Set Nat :=
  {t | (gone = true ∧ t = asked) ∨ (t, .cancel) ∈ events}

theorem le_of_gone_before (order : InOrder asked front opening)
    (first : IsLeast (givenUp asked gone (front ++ events)) c)
    (before : (gone || front.any (·.2.isCancel)) = true) : c ≤ opening := by
  rcases Bool.or_eq_true_iff.1 before with given | heard
  · exact Nat.le_trans (first.2 (.inl ⟨given, rfl⟩)) order.origin_le
  · obtain ⟨⟨t, e⟩, member, cancels⟩ := List.any_eq_true.1 heard
    cases e with
    | cancel =>
        have upTo : c ≤ t := first.2 (.inr (List.mem_append_left _ member))
        exact Nat.le_trans upTo (order.of_mem member).2
    | opened | copied | notice => cases cancels

theorem decides_interrupted (orderFront : InOrder asked front opening)
    (order : InOrder opening signals now)
    (first : IsLeast (givenUp asked gone (front ++ (opening, .opened (.ok ())) :: played signals)) c) :
    Decides p opening (gone || front.any (·.2.isCancel)) signals (max opening c) .interrupted := by
  cases before : gone || front.any (·.2.isCancel) with
  | true =>
      have early : c ≤ opening := le_of_gone_before orderFront first before
      exact .gone rfl (Nat.max_eq_left early)
  | false =>
      obtain ⟨rfl, unheard⟩ := Bool.or_eq_false_iff.1 before
      rcases first.1 with ⟨given, -⟩ | member
      · cases given
      · rcases List.mem_append.1 member with old | new
        · exact absurd rfl (List.any_eq_false.1 unheard _ old)
        · obtain ⟨signal, listed, same⟩ := mem_played ((List.mem_cons.1 new).resolve_left nofun)
          cases signal with
          | cancel =>
              rw [Nat.max_eq_right (order.of_mem listed).1]
              exact .interrupted listed
          | replied | notice => cases same

/-- What a run of a relay has come to whose caller gave up first at a time. -/
inductive GivenUp (p : SessionPolicy) (asked : Nat) (gone : Bool) (events : List (Nat × Event))
    (c : Nat) (s : State) : Prop where
  /-- The gateway has not answered yet. -/
  | waits : (∀ x ∈ events, x.2 = .cancel) → s.relay = .opening → GivenUp p asked gone events c s
  /-- What the gateway answers decides, also when the caller gave up before. -/
  | refused {front after : List (Nat × Event)} {t : Nat} {failure : TunnelError} :
      events = front ++ (t, .opened (.error failure)) :: after → (∀ x ∈ front, x.2 = .cancel) →
      s.relay = .ended t (.error failure) none → GivenUp p asked gone events c s
  /-- Giving up ends an open channel, if nothing else does by then. -/
  | opened {front : List (Nat × Event)} {opening : Nat} {signals : List (Nat × Signal)} :
      events = front ++ (opening, .opened (.ok ())) :: played signals →
      (∀ x ∈ front, x.2 = .cancel) →
      ((∀ t v, t ≤ max opening c →
          Decides p opening (gone || front.any (·.2.isCancel)) signals t v → v = .interrupted) →
        Concluded p (max opening c) (.error interrupted) s) →
      GivenUp p asked gone events c s

theorem interrupted_once_open (stream : d.checkStream = .ok ())
    (ran : run p (.start asked d gone) events = some s) (order : InOrder asked events now)
    (first : IsLeast (givenUp asked gone events) c) : GivenUp p asked gone events c s := by
  have begun := ran
  rw [start_of_stream stream] at begun
  rcases opening_cases begun with ⟨waits, cancels⟩ | ⟨front, t, r, after, rfl, cancels, refused⟩
  · exact .waits cancels waits
  · cases r with
    | error failure => exact .refused rfl cancels (refused failure rfl)
    | ok =>
        have opened := run_of_opened ran
        obtain ⟨signals, rfl⟩ := exists_played opened nofun
        obtain ⟨orderFront, orderBack⟩ := order.cons_inv
        rw [inOrder_played] at orderBack
        refine .opened rfl cancels fun alone => ?_
        have decides := decides_interrupted (p := p) orderFront orderBack first
        have upTo : max t c ≤ now := by
          refine Nat.max_le.2 ⟨orderBack.origin_le, ?_⟩
          rcases first.1 with ⟨-, rfl⟩ | member
          · exact order.origin_le
          · exact (order.of_mem member).2
        refine concluded_of_first orderBack upTo opened decides fun t' v' sooner decides' => ?_
        obtain rfl := alone t' v' sooner decides'
        refine ⟨Nat.le_antisymm sooner ?_, rfl⟩
        cases decides' with
        | interrupted member =>
            have given : c ≤ t' :=
              first.2 (.inr (List.mem_append_right _ (.tail _ (mem_played_of_mem member))))
            exact Nat.max_le.2 ⟨(orderBack.of_mem member).1, given⟩
        | gone before same =>
            rw [same]
            exact Nat.max_le.2 ⟨Nat.le_refl t, le_of_gone_before orderFront first before⟩

def refusedLate : List (Nat × Event) := [
  (117, .cancel),
  (130, .opened (.error (.channel "host:80" "no route")))]

theorem interrupted_once_open_refused : ∃ s,
    (Destination.tcp "host" 80).checkStream = .ok () ∧
    run .standard (.start 100 (.tcp "host" 80) false) refusedLate = some s ∧
    InOrder 100 refusedLate 130 ∧ IsLeast (givenUp 100 false refusedLate) 117 ∧
    GivenUp .standard 100 false refusedLate 117 s := by
  obtain ⟨s, ran⟩ : ∃ s, run .standard (.start 100 (.tcp "host" 80) false) refusedLate = some s :=
    ⟨_, rfl⟩
  have order : InOrder 100 refusedLate 130 := by simp [refusedLate]
  have first : IsLeast (givenUp 100 false refusedLate) 117 := by
    refine ⟨.inr (.head _), ?_⟩
    rintro t (⟨given, -⟩ | member)
    · cases given
    · simp [refusedLate] at member
      omega
  exact ⟨s, rfl, ran, order, first, interrupted_once_open rfl ran order first⟩

/-- Giving up at 117 leaves the relay waiting, and at 130 it ends with the refusal. -/
theorem refusal_after_giving_up : ∃ s s',
    run .standard (.start 100 (.tcp "host" 80) false) (refusedLate.take 1) = some s ∧
    s.relay = .opening ∧ s.cancelled = true ∧
    run .standard (.start 100 (.tcp "host" 80) false) refusedLate = some s' ∧
    s'.relay = .ended 130 (.error (.channel "host:80" "no route")) none :=
  ⟨_, _, rfl, rfl, rfl, rfl, rfl⟩

end Relay

end GatewayTunnel
