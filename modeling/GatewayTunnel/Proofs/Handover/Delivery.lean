import GatewayTunnel.Proofs.Handover.Transition
import Mathlib.Data.List.Nodup

/-!
# Every connection is served once

`Handed` is what every step keeps: a connection that was accepted has a request and a token of its own,
and is there until its request has returned. With the end of the loop, after which nothing is accepted,
it gives what a whole run comes to: `connections_handed_over`.
-/

namespace GatewayTunnel

namespace Forwarding

variable {f : LocalForward} {s s' : State} {a : Action} {es : List Event} {x : Connection}

def Event.request? : Event → Option (ConnectionId × Destination)
  | requested c d => some (c, d)
  | _ => none

def Action.accepted? : Action → Option ConnectionId
  | accept c _ => some c
  | _ => none

def Action.stops : Action → Bool
  | stop | acceptFailed _ => true
  | _ => false

def Phase.isLast : Phase → Bool
  | draining | done => true
  | starting | accepting => false

theorem Transition.requests (h : Transition f s a s' es) :
    es.filterMap Event.request? = a.accepted?.toList.map fun c => (c, f.target) := by
  cases h <;> rfl

theorem Transition.isLast (h : Transition f s a s' es) (stops : a.stops = true) :
    s'.phase.isLast = true := by
  cases h <;> first | rfl | cases stops

theorem Transition.stays_last (h : Transition f s a s' es) (last : s.phase.isLast = true) :
    s'.phase.isLast = true ∧ a.accepted? = none := by
  cases h with
  | cancel | succeeded | failed | reap => exact ⟨last, rfl⟩
  | finish => exact ⟨rfl, rfl⟩
  | start phase | stop phase | accept phase | acceptFailed phase =>
      rw [phase] at last
      cases last

theorem Transition.cancelled_eq (h : Transition f s a s' es) (other : a ≠ .cancel) :
    s'.cancelled = s.cancelled := by
  cases h <;> first | rfl | exact absurd rfl other

theorem ids_markReturned {c : ConnectionId} :
    (s.markReturned c).connections.map (·.id) = s.connections.map (·.id) := by
  simp only [State.markReturned, List.map_map]
  refine List.map_congr_left fun x _ => ?_
  simp only [Function.comp_apply]
  split <;> rfl

theorem Transition.ids (h : Transition f s a s' es) :
    (s'.connections.map (·.id)).Sublist (s.connections.map (·.id) ++ a.accepted?.toList) := by
  cases h with
  | start | cancel | stop | acceptFailed | finish =>
      exact List.sublist_append_left ..
  | accept => simp [Action.accepted?]
  | succeeded | failed =>
      rw [ids_markReturned]
      exact List.sublist_append_left ..
  | reap => exact (List.filter_sublist.map _).trans (List.sublist_append_left ..)

def State.IsServing (s : State) (c : ConnectionId) : Prop :=
  ∃ x ∈ s.connections, x.id = c ∧ x.returned = false

theorem Transition.isServing_of_accepted (h : Transition f s a s' es) {c : ConnectionId}
    (accepted : a.accepted? = some c) : s'.IsServing c := by
  cases h with
  | accept =>
      cases accepted
      exact ⟨_, List.mem_append_right _ (List.mem_singleton_self _), rfl, rfl⟩
  | _ => cases accepted

theorem Transition.isServing (h : Transition f s a s' es) {c : ConnectionId}
    (distinct : (s.connections.map (·.id)).Nodup) (serving : s.IsServing c) :
    s'.IsServing c ∨ ∃ r, a = .returned c r := by
  obtain ⟨x, member, rfl, running⟩ := serving
  cases h with
  | start | cancel | stop | acceptFailed | finish => exact .inl ⟨x, member, rfl, running⟩
  | accept => exact .inl ⟨x, List.mem_append_left _ member, rfl, running⟩
  | @succeeded c | @failed c =>
      by_cases same : x.id = c
      · exact .inr ⟨_, by rw [same]⟩
      · exact .inl ⟨x, mem_markReturned.2 ⟨x, member, (if_neg same).symm⟩, rfl, running⟩
  | @reap y known returned =>
      have other : x.id ≠ y.id := by
        intro same
        obtain rfl := List.inj_on_of_nodup_map distinct member known same
        rw [running] at returned
        cases returned
      exact .inl ⟨x, List.mem_filter.2 ⟨member, by simpa using other⟩, rfl, running⟩

end Forwarding

namespace Handover

open Forwarding (ConnectionId)

variable {f : LocalForward} {tokens : Tokens} {own : TokenId} {s s' : State} {a : Action}
  {as : List Action} {es : List Forwarding.Event}

def Action.accepted? : Action → Option ConnectionId
  | forward a => a.accepted?
  | _ => none

def accepted (as : List Action) : List ConnectionId :=
  as.filterMap Action.accepted?

theorem accepted_snoc : accepted (as ++ [a]) = accepted as ++ a.accepted?.toList := by
  rw [accepted, List.filterMap_append]
  cases h : a.accepted? <;> simp [accepted, h]

/-! ## Requests -/

structure Handed (as : List Action) (s : State) : Prop where
  given : s.given.map Prod.fst = accepted as
  distinct : (accepted as).Nodup
  known : (s.forward.connections.map (·.id)).Sublist (accepted as)
  kept : ∀ c ∈ accepted as, (∃ r, .forward (.returned c r) ∈ as) ∨ s.forward.IsServing c

namespace Handed

theorem start : Handed [] (.start tokens own) where
  given := rfl
  distinct := .nil
  known := .slnil
  kept := nofun

theorem kept_step (handed : Handed as s) {b : Forwarding.Action} {x : Forwarding.State}
    (moved : Forwarding.Transition f s.forward b x es) {c : ConnectionId}
    (member : c ∈ accepted (as ++ [.forward b])) :
    (∃ r, .forward (.returned c r) ∈ as ++ [.forward b]) ∨ x.IsServing c := by
  rw [accepted_snoc] at member
  rcases List.mem_append.1 member with old | new
  · rcases handed.kept c old with ⟨r, returned⟩ | serving
    · exact .inl ⟨r, List.mem_append_left _ returned⟩
    · rcases moved.isServing (handed.distinct.sublist handed.known) serving with serving | ⟨r, rfl⟩
      · exact .inr serving
      · exact .inl ⟨r, List.mem_append_right _ (List.mem_singleton_self _)⟩
  · exact .inr (moved.isServing_of_accepted (by simpa [Action.accepted?] using new))

theorem retoken (handed : Handed as s) {x : State} (none : a.accepted? = none)
    (given : x.given = s.given) (connections : x.forward.connections = s.forward.connections) :
    Handed (as ++ [a]) x := by
  have same : accepted (as ++ [a]) = accepted as := by
    rw [accepted_snoc, none, Option.toList_none, List.append_nil]
  refine ⟨by rw [given, handed.given, same], same ▸ handed.distinct, ?_, fun c member => ?_⟩
  · rw [connections, same]
    exact handed.known
  · rw [same] at member
    rcases handed.kept c member with ⟨r, returned⟩ | serving
    · exact .inl ⟨r, List.mem_append_left _ returned⟩
    · rw [Forwarding.State.IsServing, connections]
      exact .inr serving

theorem step (handed : Handed as s) (h : Transition f s a s' es) : Handed (as ++ [a]) s' := by
  cases h with
  | @served b x _ _ accepts moved =>
      have moved := Forwarding.Transition.of_step moved
      have none : b.accepted? = none := by
        cases b <;> first | rfl | exact absurd rfl (accepts _ _)
      have same : accepted (as ++ [.forward b]) = accepted as := by
        rw [accepted_snoc, Action.accepted?, none, Option.toList_none, List.append_nil]
      have ids := moved.ids
      rw [none, Option.toList_none, List.append_nil] at ids
      exact ⟨handed.given.trans same.symm, same ▸ handed.distinct, same ▸ ids.trans handed.known,
        fun c member => handed.kept_step moved member⟩
  | @accepted c origin x _ unused moved =>
      have moved := Forwarding.Transition.of_step moved
      have more : accepted (as ++ [.forward (.accept c origin)]) = accepted as ++ [c] := accepted_snoc
      rw [handed.given] at unused
      have distinct : (accepted as ++ [c]).Nodup := by
        refine List.nodup_append.2 ⟨handed.distinct, List.nodup_singleton c, ?_⟩
        rintro d member _ new rfl
        exact unused (List.mem_singleton.1 new ▸ member)
      refine ⟨?_, more ▸ distinct, ?_, fun c member => handed.kept_step moved member⟩
      · rw [List.map_append, handed.given, more]
        rfl
      · rw [more]
        exact moved.ids.trans (handed.known.append_right [c])
  | derived => exact handed.retoken rfl rfl rfl
  | cancelled => exact handed.retoken rfl rfl rfl

end Handed

/-! ## Tokens -/

structure Held (tokens : Tokens) (own : TokenId) (as : List Action) (s : State) : Prop where
  own_eq : s.own = own
  count_le : tokens.count ≤ s.tokens.count
  heard : s.forward.cancelled = s.tokens.isCancelled own
  stopped : ∀ t, s.tokens.stopped t = true ↔ tokens.stopped t = true ∨ .cancel t ∈ as
  fresh : (s.given.map Prod.snd).Nodup
  children : ∀ x ∈ s.given, tokens.count ≤ x.2 ∧ x.2 < s.tokens.count ∧
    s.tokens.line x.2 = x.2 :: s.tokens.line own

namespace Held

theorem start : Held tokens own [] (.start tokens own) where
  own_eq := rfl
  count_le := Nat.le_refl _
  heard := rfl
  stopped t := by simp [State.start]
  fresh := .nil
  children := nofun

theorem children_child (held : Held tokens own as s) (inside : own < s.tokens.count) {t : TokenId} :
    ∀ x ∈ s.given, tokens.count ≤ x.2 ∧ x.2 < (s.tokens.child t).count ∧
      (s.tokens.child t).line x.2 = x.2 :: (s.tokens.child t).line own := by
  intro x member
  obtain ⟨late, made, line⟩ := held.children x member
  rw [Tokens.line_child made, Tokens.line_child inside, line, Tokens.count_child]
  exact ⟨late, Nat.lt_succ_of_lt made, rfl⟩

theorem step (held : Held tokens own as s) (inside : own < tokens.count)
    (h : Transition f s a s' es) : Held tokens own (as ++ [a]) s' := by
  obtain ⟨rfl, count_le, heard, stopped, fresh, children⟩ := id held
  have made : s.own < s.tokens.count := Nat.lt_of_lt_of_le inside count_le
  cases h with
  | served cancels _ moved =>
      have still := (Forwarding.Transition.of_step moved).cancelled_eq cancels
      exact ⟨rfl, count_le, still.trans heard, by simpa using stopped, fresh, children⟩
  | @accepted c _ _ _ _ moved =>
      have still := (Forwarding.Transition.of_step moved).cancelled_eq nofun
      refine ⟨rfl, ?_, ?_, by simpa using stopped, ?_, ?_⟩
      · simpa using Nat.le_succ_of_le count_le
      · rw [still, heard, Tokens.isCancelled_child made]
      · rw [List.map_append]
        refine List.nodup_append.2 ⟨fresh, List.nodup_singleton _, ?_⟩
        rintro t old _ new rfl
        obtain ⟨x, member, rfl⟩ := List.mem_map.1 old
        have last : x.2 = s.tokens.count := List.mem_singleton.1 new
        exact Nat.ne_of_lt (children x member).2.1 last
      · refine List.forall_mem_append.2 ⟨held.children_child made, ?_⟩
        rintro x new
        obtain rfl := List.mem_singleton.1 new
        simp [Tokens.line_child made, count_le]
  | derived =>
      exact ⟨rfl, by simpa using Nat.le_succ_of_le count_le,
        heard.trans (Tokens.isCancelled_child made).symm, by simpa using stopped, fresh,
        held.children_child made⟩
  | @cancelled t there =>
      refine ⟨rfl, by simpa using count_le, ?_, ?_, fresh, by simpa using children⟩
      · rw [heard, Tokens.isCancelled_cancel there, ← Bool.or_assoc, Bool.or_self]
      · intro u
        rw [Tokens.stopped_cancel there, Bool.or_eq_true, stopped u, beq_iff_eq, or_assoc]
        simp

theorem isCancelled_iff (held : Held tokens own as s) {x : ConnectionId × TokenId}
    (member : x ∈ s.given) : s.tokens.isCancelled x.2 = true ↔
      s.tokens.isCancelled own = true ∨ .cancel x.2 ∈ as := by
  obtain ⟨late, made, line⟩ := held.children x member
  have self : s.tokens.stopped x.2 = true ↔ .cancel x.2 ∈ as := by
    rw [held.stopped, Tokens.stopped_of_le late]
    simp
  rw [Tokens.isCancelled_iff, Tokens.isCancelled_iff, line, List.exists_mem_cons_iff, self, or_comm]

end Held

/-! ## Runs -/

theorem handed_of_reached (reached : Reached f tokens own as s es) : Handed as s := by
  induction reached with
  | refl => exact .start
  | snoc before moved ih => exact ih.step (.of_step moved)

theorem held_of_reached (inside : own < tokens.count) (reached : Reached f tokens own as s es) :
    Held tokens own as s := by
  induction reached with
  | refl => exact .start
  | snoc before moved ih => exact ih.step inside (.of_step moved)

theorem Transition.requests (h : Transition f s a s' es) :
    es.filterMap Forwarding.Event.request? = a.accepted?.toList.map fun c => (c, f.target) := by
  cases h with
  | served _ _ moved | accepted _ moved => exact (Forwarding.Transition.of_step moved).requests
  | derived | cancelled => rfl

theorem requests_of_reached (reached : Reaches (step f) s as s' es) :
    es.filterMap Forwarding.Event.request? = (accepted as).map fun c => (c, f.target) := by
  induction reached with
  | refl => rfl
  | snoc before moved ih =>
      rw [List.filterMap_append, ih, (Transition.of_step moved).requests, accepted_snoc,
        List.map_append]

theorem Transition.stays_last (h : Transition f s a s' es)
    (last : s.forward.phase.isLast = true) :
    s'.forward.phase.isLast = true ∧ a.accepted? = none := by
  cases h with
  | served _ _ moved | accepted _ moved =>
      exact (Forwarding.Transition.of_step moved).stays_last last
  | derived | cancelled => exact ⟨last, rfl⟩

theorem accepted_of_last (reached : Reaches (step f) s as s' es)
    (last : s.forward.phase.isLast = true) :
    s'.forward.phase.isLast = true ∧ accepted as = [] := by
  induction reached with
  | refl => exact ⟨last, rfl⟩
  | snoc before moved ih =>
      obtain ⟨last, none⟩ := ih
      obtain ⟨still, nothing⟩ := (Transition.of_step moved).stays_last last
      rw [accepted_snoc, none, nothing]
      exact ⟨still, rfl⟩

theorem Transition.of_forward {b : Forwarding.Action}
    (h : Transition f s (.forward b) s' es) (accepts : ∀ c origin, b ≠ .accept c origin) :
    ∃ x, Forwarding.Transition f s.forward b x es ∧ s' = { s with forward := x } := by
  cases h with
  | served _ _ moved => exact ⟨_, .of_step moved, rfl⟩
  | accepted => exact absurd rfl (accepts _ _)

/-- What a run of a forward has come to. -/
structure Delivery (f : LocalForward) (tokens : Tokens) (own : TokenId) (as : List Action)
    (s : State) (es : List Forwarding.Event) : Prop where
  /-- Among the tokens, the forward does what it does alone. -/
  served : ∃ bs, Forwarding.run f { Forwarding.State.init with cancelled := tokens.isCancelled own }
    bs = some (s.forward, es)
  /-- There is one request for each accepted connection, to the target of the forward. -/
  once : (accepted as).Nodup ∧
    es.filterMap Forwarding.Event.request? = (accepted as).map fun c => (c, f.target)
  /-- Each request has a token of its own. It is cancelled with that of the forward, or if somebody
  cancels that very token. -/
  entrusted : s.given.map Prod.fst = accepted as ∧ (s.given.map Prod.snd).Nodup ∧
    s.forward.cancelled = s.tokens.isCancelled own ∧
    ∀ x ∈ s.given, (s.tokens.isCancelled x.2 = true ↔
      s.tokens.isCancelled own = true ∨ .cancel x.2 ∈ as)
  closed : ∀ before b after, as = before ++ .forward b :: after → b.stops = true →
    accepted after = []
  /-- An error of accepting leaves the connections and the tokens as they are. -/
  unharmed : ∀ before e after, as = before ++ .forward (.acceptFailed e) :: after →
    ∃ s₁ es₁ s₂ es₂, run f (.start tokens own) before = some (s₁, es₁) ∧
      step f s₁ (.forward (.acceptFailed e)) = some (s₂, es₂) ∧ s₂.tokens = s₁.tokens ∧
      s₂.given = s₁.given ∧ s₂.forward.connections = s₁.forward.connections
  /-- A connection is there until its request has returned. -/
  kept : ∀ c ∈ accepted as, (∃ r, .forward (.returned c r) ∈ as) ∨ s.forward.IsServing c
  awaited : ∀ before after, as = before ++ .forward .finish :: after →
    ∀ c ∈ accepted as, ∃ r, .forward (.returned c r) ∈ before

theorem closed_of_reached (reached : Reached f tokens own as s es) {before after : List Action}
    {b : Forwarding.Action} (split : as = before ++ .forward b :: after) (stops : b.stops = true) :
    accepted after = [] := by
  subst split
  obtain ⟨s₁, es₁, s₂, fs, es₂, -, moved, rest, -⟩ := reached.cut
  obtain ⟨x, ended, rfl⟩ := (Transition.of_step moved).of_forward (by rintro _ _ rfl; cases stops)
  exact (accepted_of_last rest (ended.isLast stops)).2

theorem unharmed_of_reached (reached : Reached f tokens own as s es) {before after : List Action}
    {e : IoError} (split : as = before ++ .forward (.acceptFailed e) :: after) :
    ∃ s₁ es₁ s₂ es₂, run f (.start tokens own) before = some (s₁, es₁) ∧
      step f s₁ (.forward (.acceptFailed e)) = some (s₂, es₂) ∧ s₂.tokens = s₁.tokens ∧
      s₂.given = s₁.given ∧ s₂.forward.connections = s₁.forward.connections := by
  subst split
  obtain ⟨s₁, es₁, s₂, fs, -, front, moved, -, -⟩ := reached.cut
  refine ⟨s₁, es₁, s₂, fs, run_iff.2 front, moved, ?_⟩
  obtain ⟨x, failed, rfl⟩ := (Transition.of_step moved).of_forward nofun
  cases failed
  exact ⟨rfl, rfl, rfl⟩

theorem awaited_of_reached (reached : Reached f tokens own as s es) {before after : List Action}
    (split : as = before ++ .forward .finish :: after) {c : ConnectionId} (member : c ∈ accepted as) :
    ∃ r, .forward (.returned c r) ∈ before := by
  subst split
  obtain ⟨s₁, es₁, s₂, fs, es₂, front, moved, rest, -⟩ := reached.cut
  obtain ⟨x, finished, rfl⟩ := (Transition.of_step moved).of_forward nofun
  cases finished with
  | finish _ empty =>
      -- nothing is accepted afterwards, and whoever had not returned would still be there
      have none : accepted after = [] := (accepted_of_last rest rfl).2
      have whole : accepted (before ++ .forward .finish :: after) =
          accepted before ++ accepted after := List.filterMap_append
      have old : c ∈ accepted before := by rwa [whole, none, List.append_nil] at member
      rcases (handed_of_reached front).kept c old with returned | ⟨y, there, -⟩
      · exact returned
      · rw [empty] at there
        cases there

theorem connections_handed_over (inside : own < tokens.count)
    (ran : run f (.start tokens own) as = some (s, es)) : Delivery f tokens own as s es := by
  have reached := run_iff.1 ran
  have handed := handed_of_reached reached
  have held := held_of_reached inside reached
  exact {
    served := exists_forwarded reached
    once := ⟨handed.distinct, requests_of_reached reached⟩
    entrusted := ⟨handed.given, held.fresh, held.heard, fun _ => held.isCancelled_iff⟩
    closed := fun _ _ _ => closed_of_reached reached
    unharmed := fun _ _ _ => unharmed_of_reached reached
    kept := handed.kept
    awaited := fun _ _ split _ => awaited_of_reached reached split }

def sampleForward : LocalForward :=
  ⟨⟨.v4 "127.0.0.1", 8080⟩, .tcp "host" 80⟩

/-- Accepting fails with two requests under way, one of which is cancelled by itself; the other one is
cancelled with the forward. -/
def acceptingFails : List Action :=
  [.forward .start, .forward (.accept 7 "first"), .forward (.accept 9 "second"), .cancel 1,
    .forward (.returned 7 (.error (.relay (.bare .interrupted)))), .derive 2,
    .forward (.acceptFailed (.system 24)), .forward (.reap 7), .cancel 0,
    .forward (.returned 9 (.ok ())), .forward (.reap 9), .forward .finish]

theorem connections_handed_over_failing : ∃ s es, 0 < Tokens.lone.count ∧
    run sampleForward (.start .lone 0) acceptingFails = some (s, es) ∧ s.given = [(7, 1), (9, 2)] ∧
    Delivery sampleForward .lone 0 acceptingFails s es := by
  have ends : (run sampleForward (.start .lone 0) acceptingFails).any (fun last =>
      last.1.given = [(7, 1), (9, 2)]) = true := by decide +kernel
  obtain ⟨⟨s, es⟩, ran, given⟩ := (Option.any_eq_true _ _).1 ends
  exact ⟨s, es, by decide, ran, of_decide_eq_true given, connections_handed_over (by decide) ran⟩

end Handover

end GatewayTunnel
