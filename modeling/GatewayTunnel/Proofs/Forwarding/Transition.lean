import GatewayTunnel.Forwarding
import GatewayTunnel.Proofs.Run

namespace GatewayTunnel.Forwarding

variable {f : LocalForward} {s s' : State} {a : Action} {es : List Event} {c : ConnectionId}
  {x : Connection}

inductive Transition (f : LocalForward) (s : State) : Action → State → List Event → Prop where
  | start : s.phase = .starting →
      Transition f s .start { s with phase := .accepting } [record .info "Local forward listening"
        [("listen", f.address.render), ("target", f.target.render)]]
  | cancel : Transition f s .cancel { s with cancelled := true } []
  | stop : s.phase = .accepting → s.cancelled = true →
      Transition f s .stop { s with phase := .draining } []
  | accept {c : ConnectionId} {origin : String} : s.phase = .accepting →
      Transition f s (.accept c origin)
        { s with connections := s.connections ++ [⟨c, origin, false⟩] } [.requested c f.target]
  | acceptFailed {e : IoError} : s.phase = .accepting →
      Transition f s (.acceptFailed e) { s with phase := .draining }
        [record .warn "Local forward accept error" [("err", e.message)]]
  | succeeded {c : ConnectionId} {x : Connection} : s.running? c = some x →
      Transition f s (.returned c (.ok ())) (s.markReturned c) []
  | failed {c : ConnectionId} {x : Connection} {e : TunnelError} : s.running? c = some x →
      Transition f s (.returned c (.error e)) (s.markReturned c) [failed x.origin e]
  | reap {x : Connection} : x ∈ s.connections → x.returned = true →
      Transition f s (.reap x.id)
        { s with connections := s.connections.filter fun y => y.id != x.id } []
  | finish : s.phase = .draining → s.connections = [] →
      Transition f s .finish { s with phase := .done } [record .info "Local forward stopped"
        [("listen", f.address.render)], .finished]

theorem Transition.of_step (h : step f s a = some (s', es)) : Transition f s a s' es := by
  cases a with
  | start =>
      simp only [step] at h
      split at h <;> cases h
      exact .start ‹_›
  | cancel =>
      cases h
      exact .cancel
  | stop =>
      simp only [step] at h
      split at h <;> cases h
      rename_i ready
      exact .stop ready.1 ready.2
  | accept c origin =>
      simp only [step] at h
      split at h <;> cases h
      exact .accept ‹_›
  | acceptFailed e =>
      simp only [step] at h
      split at h <;> cases h
      exact .acceptFailed ‹_›
  | returned c r =>
      obtain ⟨x, running, same⟩ := Option.map_eq_some_iff.1 h
      cases r <;> cases same
      · exact .failed running
      · exact .succeeded running
  | reap c =>
      simp only [step] at h
      split at h <;> cases h
      rename_i known
      obtain ⟨x, member, back⟩ := List.any_eq_true.1 known
      simp only [Bool.and_eq_true, beq_iff_eq] at back
      obtain ⟨rfl, returned⟩ := back
      exact .reap member returned
  | finish =>
      simp only [step] at h
      split at h <;> cases h
      rename_i drained
      exact .finish drained.1 drained.2

theorem mem_markReturned {y : Connection} : y ∈ (s.markReturned c).connections ↔
    ∃ x ∈ s.connections, y = if x.id = c then { x with returned := true } else x := by
  simp [State.markReturned, eq_comm]

/-! ## What a step keeps -/

theorem Transition.stays_done (h : Transition f s a s' es) (done : s.phase = .done) :
    s'.phase = .done := by
  cases h with
  | cancel | succeeded | failed | reap => exact done
  | finish => rfl
  | start phase | stop phase | accept phase | acceptFailed phase =>
      rw [done] at phase
      cases phase

theorem Transition.drained (h : Transition f s a s' es)
    (drained : s.phase = .done → s.connections = []) (done : s'.phase = .done) :
    s'.connections = [] := by
  cases h with
  | start | stop | acceptFailed => cases done
  | cancel => exact drained done
  | accept phase =>
      rw [phase] at done
      cases done
  | succeeded | failed => simp [State.markReturned, drained done]
  | reap => simp [drained done]
  | finish _ empty => exact empty

theorem Transition.requested (h : Transition f s a s' es) {d : Destination}
    (shown : .requested c d ∈ es) : ∃ origin, a = .accept c origin := by
  cases h <;> simp [record, Forwarding.failed] at shown
  obtain ⟨rfl, -⟩ := shown
  exact ⟨_, rfl⟩

theorem Transition.keeps (h : Transition f s a s' es) (member : x ∈ s.connections) :
    (∃ y ∈ s'.connections, y.id = x.id) ∨ ∃ y ∈ s.connections, y.id = x.id ∧ y.returned = true := by
  cases h with
  | start | cancel | stop | acceptFailed | finish => exact .inl ⟨x, member, rfl⟩
  | accept => exact .inl ⟨x, List.mem_append_left _ member, rfl⟩
  | succeeded | failed =>
      refine .inl ⟨_, mem_markReturned.2 ⟨x, member, rfl⟩, ?_⟩
      split <;> rfl
  | @reap y known returned =>
      by_cases same : y.id = x.id
      · exact .inr ⟨y, known, same, returned⟩
      · have other : (x.id != y.id) = true := by simp [Ne.symm same]
        exact .inl ⟨x, List.mem_filter.2 ⟨member, other⟩, rfl⟩

theorem Transition.origin (h : Transition f s a s' es) (member : x ∈ s'.connections) :
    x ∈ s.connections ∨ (∃ origin, a = .accept x.id origin ∧ x.returned = false) ∨
      ∃ r, a = .returned x.id r := by
  cases h with
  | start | cancel | stop | acceptFailed | finish => exact .inl member
  | accept =>
      rcases List.mem_append.1 member with old | new
      · exact .inl old
      · obtain rfl := List.mem_singleton.1 new
        exact .inr (.inl ⟨_, rfl, rfl⟩)
  | succeeded | failed =>
      obtain ⟨y, old, rfl⟩ := mem_markReturned.1 member
      split
      · rename_i same
        exact .inr (.inr ⟨_, by rw [same]⟩)
      · exact .inl old
  | reap => exact .inl (List.mem_filter.1 member).1

theorem run_iff {as : List Action} : run f s as = some (s', es) ↔ Reaches (step f) s as s' es :=
  reaches_iff (fun _ => rfl) fun s a as => by
    simp only [run, Option.bind_eq_bind, Option.map_eq_bind]
    rfl

end GatewayTunnel.Forwarding
