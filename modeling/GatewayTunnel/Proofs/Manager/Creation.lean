import GatewayTunnel.Proofs.Manager.Ledger

namespace GatewayTunnel.Manager

variable {g : Gateway} {s s' : State} {a : Action} {as : List Action} {es fs : List Event}
  {c c' : CallId} {t : TransportId} {p q : Phase} {e : Event}

/-- The call is an acquire that found no live transport under the lock, up to the moment it fills
the slot. -/
def Phase.building : Phase → Bool
  | ready _ | dialing _ | pausing .. | dialed | shaking | publishing _ => true
  | _ => false

def Event.builds : Event → Bool
  | dialStarted .. | shakeStarted _ | created .. | published .. => true
  | _ => false

theorem Phase.emptied_of_building (h : p.building = true) : p.emptied = true := by
  cases p <;> simp_all [building, emptied]

theorem Turn.building_of_builds (turn : Turn g c a p q es) (mem : e ∈ es)
    (builds : e.builds = true) : p.building = true := by
  cases turn with
  | alone own => cases own <;> simp_all [Event.builds, Phase.building]
  | leave own => cases own <;> simp_all [Event.builds]
  | vacate old => cases old <;> simp_all [Event.builds]
  | take old => cases old <;> simp_all [Event.builds]
  | _ => simp_all [Event.builds, Phase.building]

theorem Turn.building_of_evicted (turn : Turn g c a p q es) (mem : .evicted c t ∈ es) :
    q.building = true := by
  cases turn with
  | alone own => cases own <;> simp_all
  | leave own => cases own <;> simp_all
  | take old => cases old <;> simp_all
  | _ => simp_all [Phase.building]

theorem Turn.building (turn : Turn g c a p q es) (building : p.building = true) :
    q.building = true ∨ (∃ t, .published c t ∈ es) ∨ ∃ e, q = .leaving (.failed e) := by
  cases turn with
  | alone own => cases own <;> simp_all [Phase.building]
  | leave own => cases own <;> simp_all [Phase.building]
  | _ => simp_all [Phase.building]

theorem Event.caller?_of_builds (shown : e.builds = true) : ∃ c, e.caller? = some c := by
  cases e <;> simp_all [builds, caller?]

theorem Transition.slot_of_builds (inv : LockInv s) (h : Transition g s a s' fs) (mem : e ∈ fs)
    (builds : e.builds = true) : s.slot = none := by
  obtain ⟨c, own⟩ := Event.caller?_of_builds builds
  have turn := h.turn_of_mem inv mem own
  have building := turn.building_of_builds (mem_filter_isOf mem own) builds
  exact inv.vacant c (Phase.emptied_of_building building)

theorem Transition.slot_of_published (h : Transition g s a s' fs) (mem : .published c t ∈ fs) :
    s'.slot = some t := by
  cases h with
  | alone own => cases own.quiet _ mem
  | leave own => cases own.quiet _ mem
  | _ => simp_all

/-- Transports are made by one call at a time, over a slot that is empty until the publication. -/
theorem creation_exclusive (ran : run g .start as = some (s, es)) :
    (∀ c c', (s.calls c).hasLock = true → (s.calls c').hasLock = true → c = c') ∧
    (∀ c, (s.calls c).building = true → s.slot = none) ∧
    ∀ a s' fs, step g s a = some (s', fs) →
      (∀ c n, .dialStarted c n ∈ fs → s.slot = none) ∧
      (∀ c, .shakeStarted c ∈ fs → s.slot = none) ∧
      (∀ c t, .published c t ∈ fs → s.slot = none ∧ s'.slot = some t) ∧
      (∀ c t, .evicted c t ∈ fs → (s'.calls c).building = true) ∧
      ∀ c, (s.calls c).building = true → (s'.calls c).building = true ∨
        (∃ t, .published c t ∈ fs) ∨ ∃ e, s'.calls c = .leaving (.failed e) := by
  have inv := lockInv_of_reached (run_iff.1 ran)
  refine ⟨fun c c' => inv.unique, fun c building =>
    inv.vacant c (Phase.emptied_of_building building), ?_⟩
  intro a s' fs moved
  have transition := Transition.of_step moved
  refine ⟨fun c n mem => transition.slot_of_builds inv mem rfl,
    fun c mem => transition.slot_of_builds inv mem rfl,
    fun c t mem => ⟨transition.slot_of_builds inv mem rfl, transition.slot_of_published mem⟩,
    fun c t mem => ?_, fun c building => ?_⟩
  · have turn := transition.turn_of_mem inv mem rfl
    exact turn.building_of_evicted (mem_filter_isOf mem rfl)
  · rcases transition.turn inv c with ⟨same, -⟩ | turn
    · rw [same]
      exact .inl building
    · rcases turn.building building with still | ⟨t, mem⟩ | failed
      · exact .inl still
      · exact .inr (.inl ⟨t, (List.mem_filter.1 mem).1⟩)
      · exact .inr (.inr failed)

def sampleGateway : Gateway :=
  ⟨⟨"gateway.example", 22⟩, .standard, .standard⟩

def acquireAlone (c : CallId) : List Action :=
  [.arrive c .acquire, .proceed c, .proceed c, .proceed c, .proceed c, .dialEnded c (.ok ()),
    .proceed c, .shakeEnded c (.ok ()), .proceed c, .proceed c, .proceed c]

/-- The transport of call 0 dies, and call 1 evicts it and dials while call 2 waits for the lock. -/
def redial : List Action :=
  acquireAlone 0 ++ [.die 0, .arrive 1 .acquire, .arrive 2 .acquire, .proceed 1, .proceed 2,
    .proceed 1, .proceed 2, .proceed 1]

theorem creation_exclusive_redial : ∃ s es s' fs, run sampleGateway .start redial = some (s, es) ∧
    (s.calls 1).hasLock = true ∧ (s.calls 2).hasLock = false ∧
    step sampleGateway s (.proceed 1) = some (s', fs) ∧ .dialStarted 1 0 ∈ fs ∧ s.slot = none :=
  ⟨_, _, _, _, rfl, rfl, rfl, rfl, .head _,
    ((creation_exclusive (rfl : run sampleGateway .start redial = some (_, _))).2.2
      (.proceed 1) _ _ rfl).1 1 0 (.head _)⟩

end GatewayTunnel.Manager
