import GatewayTunnel.Proofs.Sessions.Following
import GatewayTunnel.Proofs.Transport.Transition

/-!
# Sessions do not end each other

When a relay that had its channel has ended, the token of its session is cancelled and its timer does
nothing more. What happens to a session leaves the transport, the other sessions and the tokens of the
callers as they are: `sessions_apart`.
-/

namespace GatewayTunnel.Sessions

variable {g : String} {s s' : State} {now i : Nat} {a : Action} {as : List (Nat × Action)}
  {x y : Session} {t : TokenId} {es fs : List Transport.Event}

def transported? : Nat × Action → Option Transport.Action
  | (_, .transport a) => some a
  | _ => none

theorem Transition.transport (h : Transition s now a s' es) :
    Reaches Transport.step s.transport (transported? (now, a)).toList s'.transport es := by
  cases h with
  | transported moved => exact .single moved
  | begun | moved | derived | cancelled => exact .refl

theorem transport_of_reached (reached : Reaches step (.start g) as s es) :
    Transport.run (.start g) (as.filterMap transported?) = some (s.transport, es) := by
  rw [Transport.run_iff]
  induction reached with
  | refl => exact .refl
  | @snoc as s es a s' fs before moved ih =>
      have next := (Transition.of_step (held_of_reached before).owned moved).transport
      rw [List.filterMap_append]
      cases same : transported? a <;> simpa [same] using ih.trans next

/-- What a run of sessions over one transport has come to. -/
structure Apart (g : String) (as : List (Nat × Action)) (s : State) (es : List Transport.Event) :
    Prop where
  /-- A relay that had its channel has stopped its timer for good when it has ended, and with it the
  session's own token. -/
  cleaned : ∀ x ∈ s.sessions, ∀ now r c, x.relay.relay = .ended now r (some c) →
    (∃ t, x.token = some t ∧ s.tokens.isCancelled t = true) ∧ c.timer.nextCheck? = none ∧
      ∀ h, (c.timer.run h).cancelledAt = c.timer.cancelledAt
  /-- A session's own token is cancelled exactly when its own timer has ended. -/
  owned : ∀ x ∈ s.sessions, ∀ c, x.relay.relay.copies? = some c →
    ∃ t, x.token = some t ∧ s.tokens.isCancelled t = c.timer.isExpired
  /-- Any other token is cancelled only by somebody who cancels it, or one above it. -/
  callers : ∀ t, s.isFree t = true → (s.tokens.isCancelled t = true ↔
    ∃ u ∈ s.tokens.line t, ∃ now, (now, .cancel u) ∈ as)
  /-- A session hears of the token of its caller, and else does what its relay does alone. -/
  alone : ∀ i x, s.sessions[i]? = some x → s.isFree x.caller = true ∧
    x.relay.cancelled = s.tokens.isCancelled x.caller ∧ Followed g as s i x
  /-- The transport does what is done to it alone. -/
  transport : Transport.run (.start g) (as.filterMap transported?) = some (s.transport, es)
  /-- What happens to a session touches neither the transport, nor another session, nor a token that
  is not its own. -/
  unharmed : ∀ before now i e after, as = before ++ (now, .session i e) :: after →
    ∃ s₁ es₁ s₂, run (.start g) before = some (s₁, es₁) ∧
      step s₁ (now, .session i e) = some (s₂, []) ∧ s₂.transport = s₁.transport ∧
      (∀ j, j ≠ i → s₂.sessions[j]? = s₁.sessions[j]?) ∧
      ∀ t < s₁.tokens.count, ownAt s₂.owners i ≠ some t →
        s₂.tokens.isCancelled t = s₁.tokens.isCancelled t

theorem Held.own (held : Held s) (member : x ∈ s.sessions) {c : Copies}
    (has : x.relay.relay.copies? = some c) :
    ∃ t, x.token = some t ∧ s.tokens.isCancelled t = c.timer.isExpired := by
  have told := held.told x member
  obtain ⟨t, own⟩ : ∃ t, x.token = some t := by
    rw [← Option.isSome_iff_exists, told.has, has]
    rfl
  exact ⟨t, own, by rw [told.own t own, Relay.stopped, has, Option.any_some]⟩

theorem unharmed_of_reached (reached : Reaches step (.start g) as s es)
    {before after : List (Nat × Action)} {e : Relay.Event}
    (split : as = before ++ (now, .session i e) :: after) :
    ∃ s₁ es₁ s₂, run (.start g) before = some (s₁, es₁) ∧
      step s₁ (now, .session i e) = some (s₂, []) ∧ s₂.transport = s₁.transport ∧
      (∀ j, j ≠ i → s₂.sessions[j]? = s₁.sessions[j]?) ∧
      ∀ t < s₁.tokens.count, ownAt s₂.owners i ≠ some t →
        s₂.tokens.isCancelled t = s₁.tokens.isCancelled t := by
  subst split
  obtain ⟨s₁, es₁, s₂, fs, -, front, moved, -, -⟩ := reached.cut
  have owned := (held_of_reached front).owned
  cases h : Transition.of_step owned moved with
  | moved there _ _ became =>
      refine ⟨s₁, es₁, _, run_iff.2 front, moved, rfl, fun j other => ?_, fun t made other => ?_⟩
      · exact List.getElem?_set_ne other.symm
      · refine became.isCancelled owned there made fun own => other ?_
        obtain ⟨inside, -⟩ := List.getElem?_eq_some_iff.1 there
        exact State.ownAt_of_mem (List.getElem?_set_self inside) own

theorem sessions_apart (ran : run (.start g) as = some (s, es)) : Apart g as s es := by
  have reached := run_iff.1 ran
  have held := held_of_reached reached
  refine {
    cleaned := fun x member now r c ended => ?_
    owned := fun x member c => held.own member
    callers := fun t free =>
      (blamed_of_reached reached).isCancelled_iff held (State.isFree_iff.1 free)
    alone := fun i x there => ?_
    transport := transport_of_reached reached
    unharmed := fun _ _ _ _ _ => unharmed_of_reached reached }
  · have expired := (held.told x member).stops now r c ended
    obtain ⟨t, own, cancelled⟩ := held.own member (c := c) (by rw [ended]; rfl)
    exact ⟨⟨t, own, cancelled.trans expired⟩, ActivityTimer.stays_ended expired⟩
  · have member := List.mem_of_getElem? there
    exact ⟨State.isFree_iff.2 (held.owned.caller member), (held.told x member).heard,
      followed_of_reached reached there⟩

/-- Two sessions with one caller, whose token is a child of the first one. One of them fails and the
transport ends, and the other one goes on until the first token is cancelled. -/
def oneFails : List (Nat × Action) :=
  [(0, .derive 0), (1, .begin .standard (.tcp "host" 80) 1), (2, .begin .standard (.tcp "host" 90) 1),
    (5, .session 1 (.opened (.ok ()))), (8, .session 0 (.opened (.ok ()))),
    (9, .session 1 (.copied .request (.readFailed (.bare .connectionReset)))),
    (10, .session 0 (.copied .request (.chunk [1, 2]))), (11, .transport .endSession),
    (12, .session 0 (.copied .request (.accepted 2))), (20, .cancel 0), (20, .session 0 .notice)]

def outcome (s : State) : List (Option (Except TunnelError Unit)) × List Bool :=
  (s.sessions.map fun x => match x.relay.relay with
    | .ended _ r _ => some r
    | _ => none,
  (List.range s.tokens.count).map s.tokens.isCancelled)

theorem sessions_apart_one_fails : ∃ s₁ es₁ s₂ es₂,
    run (.start "gateway") (oneFails.take 9) = some (s₁, es₁) ∧
    outcome s₁ = ([none, some (.error (.relay (.bare .connectionReset)))],
      [false, false, true, false]) ∧
    Apart "gateway" (oneFails.take 9) s₁ es₁ ∧
    run (.start "gateway") oneFails = some (s₂, es₂) ∧
    outcome s₂ = ([some (.error Relay.interrupted),
      some (.error (.relay (.bare .connectionReset)))], [true, true, true, true]) ∧
    Apart "gateway" oneFails s₂ es₂ := by
  have early : (run (.start "gateway") (oneFails.take 9)).any (fun last => outcome last.1 =
      ([none, some (.error (.relay (.bare .connectionReset)))],
        [false, false, true, false])) = true := by decide +kernel
  have late : (run (.start "gateway") oneFails).any (fun last => outcome last.1 =
      ([some (.error Relay.interrupted), some (.error (.relay (.bare .connectionReset)))],
        [true, true, true, true])) = true := by decide +kernel
  obtain ⟨⟨s₁, es₁⟩, ran₁, outcome₁⟩ := (Option.any_eq_true _ _).1 early
  obtain ⟨⟨s₂, es₂⟩, ran₂, outcome₂⟩ := (Option.any_eq_true _ _).1 late
  exact ⟨s₁, es₁, s₂, es₂, ran₁, of_decide_eq_true outcome₁, sessions_apart ran₁, ran₂,
    of_decide_eq_true outcome₂, sessions_apart ran₂⟩

end GatewayTunnel.Sessions
