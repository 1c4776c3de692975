import GatewayTunnel.Proofs.Manager.Calm
import GatewayTunnel.Proofs.Manager.Ownership

namespace GatewayTunnel.Manager

variable {g : Gateway} {s s' : State} {a : Action} {as : List Action} {es fs : List Event}
  {c c' : CallId} {t : TransportId} {p q : Phase} {r : Reply}

def Phase.afterTake : Phase → Bool
  | taken _ | toClose _ | closing _ | done (.closed _) => true
  | _ => false

theorem Turn.afterTake (turn : Turn g c a p q fs) (after : p.afterTake = true) :
    q.afterTake = true := by
  cases turn with
  | alone own => cases own <;> simp_all [Phase.afterTake]
  | leave own => cases own <;> simp_all [Phase.afterTake]
  | _ => simp_all [Phase.afterTake]

theorem Turn.arrives_of_isOver (turn : Turn g c a p q fs) (atEnd : p.isOver = true) :
    ∃ goal, a = .arrive c goal := by
  cases p with
  | absent => exact turn.arrival
  | done r => exact absurd turn Turn.not_done
  | _ => cases atEnd

theorem Transition.isOver (inv : LockInv s) (h : Transition g s a s' fs)
    (noArrival : ∀ goal, a ≠ .arrive c goal) (atEnd : (s.calls c).isOver = true) :
    s'.calls c = s.calls c := by
  rcases h.turn inv c with ⟨same, -⟩ | turn
  · exact same
  · obtain ⟨goal, rfl⟩ := turn.arrives_of_isOver atEnd
    exact absurd rfl (noArrival goal)

theorem Transition.slot_eq_none (h : Transition g s a s' fs) (empty : s.slot = none)
    (nobody : ∀ c t, s.calls c ≠ .publishing t) : s'.slot = none := by
  cases h with
  | publish phase => exact absurd phase (nobody _ _)
  | evict | take | clear => rfl
  | leave => rw [State.release_slot, empty]
  | _ => exact empty

/-- One call is a close that empties the slot, and all others are over. -/
structure LastCall (c : CallId) (s : State) : Prop where
  others : ∀ c' ≠ c, (s.calls c').isOver = true
  close : (s.calls c).beforeTake = true ∨ ((s.calls c).afterTake = true ∧ s.slot = none)

namespace LastCall

theorem start (others : ∀ c' ≠ c, (s.calls c').isOver = true) :
    LastCall c (s.move c (.asking .close)) := by
  refine ⟨fun c' other => ?_, .inl ?_⟩
  · rw [State.move_calls_ne other]
    exact others c' other
  · rw [State.move_calls_self]
    rfl

theorem nobody_publishes (last : LastCall c s) (c' : CallId) (t : TransportId) :
    s.calls c' ≠ .publishing t := by
  intro publishing
  by_cases here : c' = c
  · subst here
    rcases last.close with before | ⟨after, -⟩
    · rw [publishing] at before
      cases before
    · rw [publishing] at after
      cases after
  · have atEnd := last.others c' here
    rw [publishing] at atEnd
    cases atEnd

theorem step (last : LastCall c s) (inv : LockInv s) (inv' : LockInv s') (h : Transition g s a s' fs)
    (noArrival : ∀ c' goal, a ≠ .arrive c' goal) : LastCall c s' where
  others c' other := by
    have atEnd := last.others c' other
    rw [h.isOver inv (noArrival c') atEnd]
    exact atEnd
  close := by
    rcases last.close with before | ⟨after, empty⟩
    · rcases h.beforeTake inv before with before' | ⟨old, taken⟩
      · exact .inl before'
      · refine .inr ⟨by rw [taken]; rfl, inv'.vacant c ?_⟩
        rw [taken]
        rfl
    · exact .inr ⟨h.keeps (P := fun p => p.afterTake = true) inv Turn.afterTake after,
        h.slot_eq_none empty last.nobody_publishes⟩

/-- When the last call is over, nothing is left. -/
theorem settled (last : LastCall c s) (reached : Reached g as s es) (atEnd : s.calls c = .done r) :
    s.slot = none ∧ ∀ t < s.transports.length, s.hasEnded t = true ∨
      ∃ c, es.filter (·.closes t) = [.closeStarted c t] := by
  have empty : s.slot = none := by
    rcases last.close with before | ⟨-, empty⟩
    · rw [atEnd] at before
      cases before
    · exact empty
  have built : s.built? = none := by
    rw [Option.eq_none_iff_forall_ne_some]
    intro t built
    obtain ⟨c', -, publishing⟩ := State.built?_eq_some.1 built
    exact last.nobody_publishes c' t publishing
  refine ⟨empty, fun t made => ?_⟩
  rcases gone_of_vacant reached empty built made with ended | ⟨c', took⟩
  · exact .inl ((hasEnded_iff_of_reached reached).2 ended)
  · refine .inr ⟨c', ?_⟩
    rcases closed_once reached took with ⟨unfinished, -⟩ | ⟨-, once⟩
    · have isOver : (s.calls c').isOver = true := by
        by_cases here : c' = c
        · rw [here, atEnd]
          rfl
        · exact last.others c' here
      rcases unfinished with phase | phase <;> rw [phase] at isOver <;> cases isOver
    · exact once

end LastCall

end GatewayTunnel.Manager
