import GatewayTunnel.Proofs.Manager.Ledger

namespace GatewayTunnel.Manager

variable {g : Gateway} {s s' : State} {a : Action} {as : List Action} {es fs l₁ l₂ : List Event}
  {c : CallId} {t : TransportId} {e : Event}

theorem State.hasEnded_create :
    ({ s with transports := s.transports ++ [Transport.mk false .unwatched] } : State).hasEnded t =
      s.hasEnded t := by
  unfold hasEnded
  rcases Nat.lt_trichotomy t s.transports.length with lt | rfl | gt
  · rw [List.getElem?_append_left lt]
  · simp
  · rw [List.getElem?_eq_none (by simp; omega), List.getElem?_eq_none (by omega)]

theorem Transition.die_of_ended (h : Transition g s a s' fs) (mem : .ended t ∈ fs) :
    a = .die t := by
  cases h with
  | alone own => cases own.isOf _ mem
  | leave own => rcases own.shown mem with ⟨next, handed⟩ | ⟨r, returned⟩ <;> contradiction
  | _ => simp_all

theorem Transition.hasEnded_iff (h : Transition g s a s' fs) :
    s'.hasEnded t = true ↔ s.hasEnded t = true ∨ .ended t ∈ fs := by
  have still : ∀ {s' : State} {fs : List Event}, s'.hasEnded t = s.hasEnded t → .ended t ∉ fs →
      (s'.hasEnded t = true ↔ s.hasEnded t = true ∨ .ended t ∈ fs) := by
    intro s' fs same unseen
    simp [same, unseen]
  cases h with
  | alone own => exact still rfl fun mem => by cases own.isOf _ mem
  | create => exact still State.hasEnded_create (by simp)
  | watch => exact still (State.hasEnded_change fun _ => rfl) (by simp)
  | leave own phase =>
      refine still (State.hasEnded_congr State.release_transports) fun mem => ?_
      cases (Transition.leave (g := g) own phase).die_of_ended mem
  | die lt => simp [State.hasEnded_kill lt]
  | clear => exact still (State.hasEnded_change fun _ => rfl) (by simp)
  | pass => exact still (State.hasEnded_change fun _ => rfl) (by simp)
  | _ => exact still rfl (by simp)

theorem hasEnded_iff_of_reached (reached : Reached g as s es) :
    s.hasEnded t = true ↔ .ended t ∈ es := by
  induction reached with
  | refl => simp [State.start, State.hasEnded]
  | snoc _ moved ih => rw [(Transition.of_step moved).hasEnded_iff, ih, List.mem_append]

theorem Transition.hasEnded_of_reaped (h : Transition g s a s' fs) (mem : e ∈ fs)
    (reaps : e.reaped? = some t) : s.hasEnded t = true := by
  have loud : e.isQuiet = false := by cases e <;> simp_all [Event.reaped?, Event.isQuiet]
  cases h with
  | alone own => simp [own.quiet e mem] at loud
  | leave own => simp [own.quiet e mem] at loud
  | evict phase slot ended =>
      obtain rfl := List.mem_singleton.1 mem
      cases reaps
      exact ended
  | clear ended slot =>
      obtain rfl := List.mem_singleton.1 mem
      cases reaps
      simp [State.hasEnded, ended]
  | _ => simp_all [Event.isQuiet, Event.reaped?]

theorem ended_before_reaped (reached : Reached g as s (l₁ ++ e :: l₂))
    (reaps : e.reaped? = some t) : .ended t ∈ l₁ := by
  obtain ⟨bs, u, a, u', before, h⟩ := reached.upTo (by rintro c rfl; cases reaps)
    (by rintro c r rfl; cases reaps)
  exact (hasEnded_iff_of_reached before).1 (h.hasEnded_of_reaped (.head _) reaps)

end GatewayTunnel.Manager
