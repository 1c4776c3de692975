import GatewayTunnel.Proofs.Manager.LastClose
import GatewayTunnel.Proofs.Request.Pipeline
import GatewayTunnel.Proofs.Tunnel.Transition

/-!
# The end of a tunnel

`Served` ties the requests to the connections of the forwards, so that nothing is going on when all
forwards are done. Then the close is the last call of the manager, and when it is over nothing is
left: `nothing_left_behind`.
-/

namespace GatewayTunnel

namespace Request

variable {g : Gateway} {s s' : State} {a : Action} {es : List Event} {c : Manager.CallId}

theorem Transition.uncalled (h : Transition g s a s' es) (inv : Manager.LockInv s.manager)
    (own : ∀ goal, a ≠ .manager (.arrive c goal)) (absent : s.requests c = .absent)
    (uncalled : s.manager.calls c = .absent) : s'.manager.calls c = .absent := by
  cases h with
  | alone => exact uncalled
  | acquire phase =>
      have other := ne_of_routing (c := c) phase (by simp [absent])
      exact (Manager.State.move_calls_ne other).trans uncalled
  | managed moved =>
      have atEnd : (s.manager.calls c).isOver = true := by
        rw [uncalled]
        rfl
      have same := (Manager.Transition.of_step moved).isOver inv
        (fun goal arrives => own goal (congrArg _ arrives)) atEnd
      exact same.trans uncalled

theorem Transition.manager_of_isOver (h : Transition g s a s' es)
    (atEnd : ∀ c, (s.requests c).isOver = true) (made : ∀ c d, a ≠ .arrive c d) :
    ∃ b m shown, a = .manager b ∧ Manager.step g s.manager b = some (m, shown) ∧
      s' = { s with manager := m } := by
  cases h with
  | @alone c _ p q _ alone phase =>
      have isOver := atEnd c
      rw [phase] at isOver
      cases alone with
      | arrive d => exact absurd rfl (made c d)
      | _ => cases isOver
  | @acquire c d phase =>
      have isOver := atEnd c
      rw [phase] at isOver
      cases isOver
  | managed moved => exact ⟨_, _, _, rfl, moved, rfl⟩

end Request

namespace Tunnel

open Manager (CallId TransportId LastCall)

variable {p : Plan} {s s' : State} {a : Action} {as : List Action} {es fs : List Event}
  {i : Nat} {b : Forwarding.Action} {c : CallId} {f : LocalForward} {x x' : Forwarding.State}
  {requests requests' : CallId → Request.Phase} {forwards : List Forwarding.State}

theorem mem_set_or_eq {z : Forwarding.State} (place : forwards[i]? = some x)
    (member : z ∈ forwards) : z ∈ forwards.set i x' ∨ z = x := by
  obtain ⟨j, other⟩ := List.mem_iff_getElem?.1 member
  by_cases here : i = j
  · subst here
    exact .inr (Option.some.inj (other.symm.trans place))
  · exact .inl (List.mem_of_getElem? (by rw [List.getElem?_set_ne here, other]))

/-! ## Requests and connections -/

structure Served (requests : CallId → Request.Phase) (forwards : List Forwarding.State)
    (es : List Event) : Prop where
  known : ∀ c, requests c ≠ .absent → ∃ i d, .forward i (.requested c d) ∈ es
  kept : ∀ i c d, .forward i (.requested c d) ∈ es →
    (∃ r, requests c = .done r) ∨ ∃ x ∈ forwards, ∃ y ∈ x.connections, y.id = c
  returned : ∀ x ∈ forwards, ∀ y ∈ x.connections, y.returned = true → ∃ r, requests y.id = .done r
  drained : ∀ x ∈ forwards, x.phase = .done → x.connections = []

namespace Served

theorem start (p : Plan) :
    Served (State.start p).requests.requests (State.start p).forwards [] where
  known c made := absurd rfl made
  kept i c d shown := by cases shown
  returned x member y connected := by
    obtain ⟨f, -, rfl⟩ := List.mem_map.1 member
    cases connected
  drained x member _ := by
    obtain ⟨f, -, rfl⟩ := List.mem_map.1 member
    rfl

theorem serve (served : Served requests forwards es) (place : forwards[i]? = some x)
    {fs : List Forwarding.Event} (moved : Forwarding.Transition f x b x' fs)
    (back : ∀ c r, b = .returned c r → ∃ r, requests c = .done r) :
    Served requests (forwards.set i x') (es ++ fs.map (.forward i)) where
  known c made := by
    obtain ⟨j, d, shown⟩ := served.known c made
    exact ⟨j, d, List.mem_append_left _ shown⟩
  kept j c d shown := by
    have here : x' ∈ forwards.set i x' :=
      List.mem_set (List.getElem?_eq_some_iff.1 place).1 x'
    rcases List.mem_append.1 shown with old | new
    · rcases served.kept j c d old with done | ⟨z, member, y, connected, rfl⟩
      · exact .inl done
      · rcases mem_set_or_eq place member with there | rfl
        · exact .inr ⟨z, there, y, connected, rfl⟩
        -- The forward forgets a connection only when its request is done.
        · rcases moved.keeps connected with ⟨y', connected', same⟩ |
            ⟨y', connected', same, returned⟩
          · exact .inr ⟨x', here, y', connected', same⟩
          · rw [← same]
            exact .inl (served.returned z member y' connected' returned)
    · obtain ⟨e, shown, same⟩ := List.mem_map.1 new
      cases same
      obtain ⟨origin, rfl⟩ := moved.requested shown
      cases moved
      exact .inr ⟨_, here, _, List.mem_append_right _ (List.mem_singleton_self _), rfl⟩
  returned z member y connected returned := by
    rcases List.mem_or_eq_of_mem_set member with old | rfl
    · exact served.returned z old y connected returned
    · rcases moved.origin connected with old | ⟨origin, -, fresh⟩ | ⟨r, rfl⟩
      · exact served.returned x (List.mem_of_getElem? place) y old returned
      · rw [fresh] at returned
        cases returned
      · exact back y.id r rfl
  drained z member done := by
    rcases List.mem_or_eq_of_mem_set member with old | rfl
    · exact served.drained z old done
    · exact moved.drained (served.drained x (List.mem_of_getElem? place)) done

theorem go (served : Served requests forwards es)
    (quiet : ∀ i c d, .forward i (.requested c d) ∉ fs)
    (done : ∀ c r, requests c = .done r → requests' c = .done r)
    (made : ∀ c, requests c = .absent → requests' c ≠ .absent →
      ∃ i d, .forward i (.requested c d) ∈ es) :
    Served requests' forwards (es ++ fs) where
  known c there := by
    have before : ∃ i d, .forward i (.requested c d) ∈ es := by
      by_cases absent : requests c = .absent
      · exact made c absent there
      · exact served.known c absent
    obtain ⟨j, d, shown⟩ := before
    exact ⟨j, d, List.mem_append_left _ shown⟩
  kept j c d shown := by
    rcases List.mem_append.1 shown with old | new
    · exact (served.kept j c d old).imp_left fun ⟨r, atEnd⟩ => ⟨r, done c r atEnd⟩
    · exact absurd new (quiet j c d)
  returned z member y connected returned := by
    obtain ⟨r, atEnd⟩ := served.returned z member y connected returned
    exact ⟨r, done _ r atEnd⟩
  drained := served.drained

theorem cancel (served : Served requests forwards es) :
    Served requests (forwards.map fun x => { x with cancelled := true }) es where
  known := served.known
  kept j c d shown := by
    refine (served.kept j c d shown).imp_right ?_
    rintro ⟨x, member, connected⟩
    exact ⟨_, List.mem_map_of_mem member, connected⟩
  returned z member := by
    obtain ⟨x, old, rfl⟩ := List.mem_map.1 member
    exact served.returned x old
  drained z member := by
    obtain ⟨x, old, rfl⟩ := List.mem_map.1 member
    exact served.drained x old

theorem serves (served : Served s.requests.requests s.forwards es) (h : Serves p s i b s' fs)
    (back : ∀ c r, b = .returned c r → ∃ r, s.requests.requests c = .done r) :
    Served s'.requests.requests s'.forwards (es ++ fs) := by
  cases h with
  | intro _ place moved => exact served.serve place moved back

theorem step (served : Served s.requests.requests s.forwards es) (h : Transition p s a s' fs) :
    Served s'.requests.requests s'.forwards (es ++ fs) := by
  have same {fs : List Event} (quiet : ∀ i c d, .forward i (.requested c d) ∉ fs) :
      Served s.requests.requests s.forwards (es ++ fs) :=
    served.go quiet (fun _ _ done => done) (fun _ absent there => absurd absent there)
  cases h with
  | served accepts returns serves =>
      exact served.serves serves fun c r returned => absurd returned (returns c r)
  | @accepted i c origin d s₁ _ _ absent serves shown =>
      have after := served.serves serves nofun
      rw [← serves.requests] at absent
      rw [← List.append_nil (es ++ fs)]
      refine after.go nofun ?_ ?_
      · intro c' r done
        have other : c' ≠ c := by
          rintro rfl
          rw [absent] at done
          cases done
        rw [Request.State.move_ne other, done]
      · intro c' old there
        by_cases here : c' = c
        · subst here
          exact ⟨i, d, List.mem_append_right _ shown⟩
        · rw [Request.State.move_ne here] at there
          exact absurd old there
  | returned done serves =>
      refine served.serves serves ?_
      rintro c r ⟨⟩
      exact ⟨_, done⟩
  | request inner moved =>
      have h := Request.Transition.of_step moved
      refine served.go (by simp) (fun _ _ => h.stays_done) ?_
      intro c absent there
      exact absurd (h.stays_absent ((ne_arrive_of_isInner inner).1 c) absent) there
  | interrupt => exact (same (by simp)).cancel
  | close => exact same nofun
  | finish => exact same (by simp)

theorem of_reached (reached : Reached p as s es) : Served s.requests.requests s.forwards es := by
  induction reached with
  | refl => exact .start p
  | snoc before moved ih => exact ih.step (.of_step moved)

theorem done_of_requested (served : Served requests forwards es)
    (all : ∀ x ∈ forwards, x.phase = .done) {d : Destination}
    (shown : .forward i (.requested c d) ∈ es) : ∃ r, requests c = .done r := by
  rcases served.kept i c d shown with done | ⟨x, member, y, connected, -⟩
  · exact done
  · rw [served.drained x member (all x member)] at connected
    cases connected

theorem isOver (served : Served requests forwards es) (all : ∀ x ∈ forwards, x.phase = .done)
    (c : CallId) : (requests c).isOver = true := by
  by_cases absent : requests c = .absent
  · rw [absent]
    rfl
  · obtain ⟨i, d, shown⟩ := served.known c absent
    obtain ⟨r, done⟩ := served.done_of_requested all shown
    rw [done]
    rfl

end Served

/-! ## The close -/

theorem Transition.unused (h : Transition p s a s' fs)
    (absent : s.requests.requests closeCall = .absent) :
    s'.requests.requests closeCall = .absent := by
  cases h with
  | served _ _ serves | returned _ serves => rw [serves.requests, absent]
  | accepted other _ serves =>
      rw [← absent, ← serves.requests]
      exact Request.State.move_ne other.symm
  | request inner moved =>
      have own := (ne_arrive_of_isInner inner).1 closeCall
      exact (Request.Transition.of_step moved).stays_absent own absent
  | interrupt | close | finish => exact absent

theorem unused_of_reached (reached : Reached p as s es) :
    s.requests.requests closeCall = .absent := by
  induction reached with
  | refl => rfl
  | snoc before moved ih => exact (Transition.of_step moved).unused ih

theorem lockInv_of_reached (reached : Reached p as s es) : Manager.LockInv s.requests.manager := by
  obtain ⟨bs, requested, -⟩ := exists_requested reached
  exact Request.lockInv_of_reached requested

theorem exists_course (reached : Reached p as s es) (other : c ≠ closeCall) :
    ∃ told, Request.Course p.gateway (fun _ => True) c (s.requests.requests c)
      (s.requests.manager.calls c) told ((es.filterMap Event.request?).filter (·.isWorkOf c)) := by
  obtain ⟨bs, requested, own⟩ := exists_requested reached
  exact ⟨_, Request.course_of_reached requested (fun goal made => other (own c goal made))
    fun _ _ => trivial⟩

theorem returned_of_done (reached : Reached p as s es) {r : Except TunnelError Unit}
    (done : s.requests.requests c = .done r) : .request (.returned c r) ∈ es := by
  have other : c ≠ closeCall := by
    rintro rfl
    rw [unused_of_reached reached] at done
    cases done
  obtain ⟨told, course⟩ := exists_course reached other
  rw [done] at course
  obtain ⟨e, shown, same⟩ := List.mem_filterMap.1 (List.mem_filter.1 course.returned_of_done).1
  cases e <;> cases same
  exact shown

/-- The close was made when every request that was ever made had returned. -/
def ClosedLast (p : Plan) (as : List Action) (s : State) (es : List Event) : Prop :=
  ∃ before after s₁ es₁ s₂ es₂, as = before ++ .proceed :: after ∧ es = es₁ ++ es₂ ∧
    run p (.start p) before = some (s₁, es₁) ∧ s₁.requests.manager.calls closeCall = .absent ∧
    step p s₁ .proceed = some (s₂, []) ∧ s₂.requests.manager.calls closeCall = .asking .close ∧
    run p s₂ after = some (s, es₂) ∧
    ∀ i c d, .forward i (.requested c d) ∈ es → ∃ r, .request (.returned c r) ∈ es₁

structure Closing (p : Plan) (as : List Action) (s : State) (es : List Event) : Prop where
  begun : ClosedLast p as s es
  all : ∀ x ∈ s.forwards, x.phase = .done
  last : LastCall closeCall s.requests.manager

/-- What is known of the close in each phase. -/
inductive Stage (p : Plan) (as : List Action) (s : State) (es : List Event) : Phase → Prop where
  | before {phase : Phase} : phase = .serving ∨ phase = .stopping →
      s.requests.manager.calls closeCall = .absent → Stage p as s es phase
  | closing : Closing p as s es → Stage p as s es .closing
  | done {r : Except TunnelError Unit} : Closing p as s es →
      s.requests.manager.calls closeCall = .done (.closed r) → Stage p as s es (.done r)

theorem ClosedLast.snoc (closed : ClosedLast p as s es) (moved : step p s a = some (s', fs))
    (quiet : ∀ i c d, .forward i (.requested c d) ∉ fs) :
    ClosedLast p (as ++ [a]) s' (es ++ fs) := by
  obtain ⟨before, after, s₁, es₁, s₂, es₂, rfl, rfl, first, absent, close, asked, rest, back⟩ :=
    closed
  refine ⟨before, after ++ [a], s₁, es₁, s₂, es₂ ++ fs, by simp, by simp, first, absent, close,
    asked, run_iff.2 ((run_iff.1 rest).snoc moved), ?_⟩
  intro i c d shown
  rcases List.mem_append.1 shown with old | new
  · exact back i c d old
  · exact absurd new (quiet i c d)

theorem Serves.of_done (h : Serves p s i b s' fs) (all : ∀ x ∈ s.forwards, x.phase = .done) :
    (∀ x ∈ s'.forwards, x.phase = .done) ∧ ∀ j c d, .forward j (.requested c d) ∉ fs := by
  cases h with
  | @intro f x x' fs _ place moved =>
      have done := all x (List.mem_of_getElem? place)
      refine ⟨fun z member => ?_, fun j c d shown => ?_⟩
      · rcases List.mem_or_eq_of_mem_set member with old | rfl
        · exact all z old
        · exact moved.stays_done done
      · obtain ⟨e, asked, same⟩ := List.mem_map.1 shown
        cases same
        obtain ⟨origin, rfl⟩ := moved.requested asked
        cases moved with
        | accept accepting =>
            rw [done] at accepting
            cases accepting

theorem Closing.moves (closing : Closing p as s es) (reached : Reached p as s es)
    (h : Transition p s a s' fs) (phase : s.phase ≠ .serving ∧ s.phase ≠ .stopping) :
    (∀ x ∈ s'.forwards, x.phase = .done) ∧ (∀ i c d, .forward i (.requested c d) ∉ fs) ∧
      (s'.requests.manager = s.requests.manager ∨ ∃ b shown,
        Manager.Transition p.gateway s.requests.manager b s'.requests.manager shown ∧
          ∀ c goal, b ≠ .arrive c goal) := by
  cases h with
  | served _ _ serves | returned _ serves =>
      obtain ⟨all, quiet⟩ := serves.of_done closing.all
      exact ⟨all, quiet, .inl (congrArg _ serves.requests)⟩
  | accepted _ _ serves shown =>
      exact absurd shown ((serves.of_done closing.all).2 _ _ _)
  | @request b m shown inner happened =>
      -- All requests are at their end, so it is the manager that moves, and no call is new.
      refine ⟨closing.all, by simp, .inr ?_⟩
      have atEnd := (Served.of_reached reached).isOver closing.all
      obtain ⟨made, called⟩ := ne_arrive_of_isInner inner
      obtain ⟨b', m', shown', rfl, step, rfl⟩ :=
        (Request.Transition.of_step happened).manager_of_isOver atEnd made
      exact ⟨b', shown', .of_step step, fun c goal arrives => called c goal (congrArg _ arrives)⟩
  | interrupt serving => exact absurd serving phase.1
  | close stopping => exact absurd stopping phase.2
  | finish => exact ⟨closing.all, by simp, .inl rfl⟩

theorem Closing.step (closing : Closing p as s es) (reached : Reached p as s es)
    (moved : step p s a = some (s', fs)) (phase : s.phase ≠ .serving ∧ s.phase ≠ .stopping) :
    Closing p (as ++ [a]) s' (es ++ fs) := by
  obtain ⟨all, quiet, manager⟩ := closing.moves reached (.of_step moved) phase
  refine ⟨closing.begun.snoc moved quiet, all, ?_⟩
  rcases manager with same | ⟨b, shown, called, noArrival⟩
  · rw [same]
    exact closing.last
  · exact closing.last.step (lockInv_of_reached reached)
      (lockInv_of_reached (reached.snoc moved)) called noArrival

theorem Closing.keeps_reply (closing : Closing p as s es) (reached : Reached p as s es)
    (h : Transition p s a s' fs) (phase : s.phase ≠ .serving ∧ s.phase ≠ .stopping)
    {r : Manager.Reply} (atEnd : s.requests.manager.calls closeCall = .done r) :
    s'.requests.manager.calls closeCall = .done r := by
  obtain ⟨-, -, same | ⟨b, shown, called, noArrival⟩⟩ := closing.moves reached h phase
  · rw [same, atEnd]
  · rw [called.isOver (lockInv_of_reached reached) (noArrival closeCall) (by rw [atEnd]; rfl), atEnd]

theorem closing_of_close (reached : Reached p as s es) (moved : step p s .proceed = some (s', fs))
    (phase : s.phase = .stopping) (h : Transition p s .proceed s' fs) :
    s'.phase = .closing ∧ Closing p (as ++ [.proceed]) s' (es ++ fs) := by
  cases h with
  | finish closing =>
      rw [phase] at closing
      cases closing
  | close _ all absent =>
      have served := Served.of_reached reached
      have asked : (s.requests.manager.move closeCall (.asking .close)).calls closeCall =
          .asking .close := Manager.State.move_calls_self
      refine ⟨rfl, ⟨as, [], s, es, _, [], rfl, rfl, run_iff.2 reached, absent, moved, asked, rfl,
        ?_⟩, all, .start ?_⟩
      · intro i c d shown
        rw [List.append_nil] at shown
        obtain ⟨r, done⟩ := served.done_of_requested all shown
        exact ⟨r, returned_of_done reached done⟩
      · intro c other
        obtain ⟨told, course⟩ := exists_course reached other
        exact course.isOver (served.isOver all c)

theorem Transition.uncalled (h : Transition p s a s' fs) (inv : Manager.LockInv s.requests.manager)
    (unused : s.requests.requests closeCall = .absent) (proceeds : a ≠ .proceed)
    (uncalled : s.requests.manager.calls closeCall = .absent) :
    s'.requests.manager.calls closeCall = .absent := by
  cases h with
  | served _ _ serves | returned _ serves => rw [serves.requests, uncalled]
  | accepted _ _ serves =>
      rw [← uncalled, ← serves.requests]
      rfl
  | request inner happened =>
      have own := (ne_arrive_of_isInner inner).2 closeCall
      exact (Request.Transition.of_step happened).uncalled inv own unused uncalled
  | interrupt => exact uncalled
  | close | finish => exact absurd rfl proceeds

theorem Transition.phase_cases (h : Transition p s a s' fs) :
    (a ≠ .proceed ∧ s'.phase = s.phase) ∨
      (a ≠ .proceed ∧ s.phase = .serving ∧ s'.phase = .stopping) ∨
      (a = .proceed ∧ s.phase = .stopping) ∨
      ∃ r, s.phase = .closing ∧ s'.phase = .done r ∧
        s.requests.manager.calls closeCall = .done (.closed r) := by
  cases h with
  | served _ _ serves | returned _ serves | accepted _ _ serves =>
      cases serves
      exact .inl ⟨nofun, rfl⟩
  | request => exact .inl ⟨nofun, rfl⟩
  | interrupt phase => exact .inr (.inl ⟨nofun, phase, rfl⟩)
  | close phase => exact .inr (.inr (.inl ⟨rfl, phase⟩))
  | finish phase closed => exact .inr (.inr (.inr ⟨_, phase, rfl, closed⟩))

theorem stage_of_reached (reached : Reached p as s es) : Stage p as s es s.phase := by
  induction reached with
  | refl => exact .before (.inl rfl) rfl
  | @snoc as s es a s' fs before moved ih =>
      have h := Transition.of_step moved
      have uncalled (proceeds : a ≠ .proceed) := h.uncalled (lockInv_of_reached before)
        (unused_of_reached before) proceeds
      -- The close begins and ends with steps of the tunnel itself; all others only keep what is known.
      rcases h.phase_cases with ⟨proceeds, same⟩ | ⟨proceeds, serving, stopping⟩ |
        ⟨rfl, stopping⟩ | ⟨r, phase, done, closed⟩
      · rw [same]
        generalize phase : s.phase = place at ih
        cases ih with
        | before early absent => exact .before early (uncalled proceeds absent)
        | closing closing => exact .closing (closing.step before moved (by simp [phase]))
        | done closing closed =>
            exact .done (closing.step before moved (by simp [phase]))
              (closing.keeps_reply before h (by simp [phase]) closed)
      · rw [serving] at ih
        rw [stopping]
        cases ih with
        | before _ absent => exact .before (.inr rfl) (uncalled proceeds absent)
      · obtain ⟨phase, closing⟩ := closing_of_close before moved stopping h
        rw [phase]
        exact .closing closing
      · rw [phase] at ih
        rw [done]
        cases ih with
        | before early =>
            rcases early with early | early <;> cases early
        | closing closing =>
            exact .done (closing.step before moved (by simp [phase]))
              (closing.keeps_reply before h (by simp [phase]) closed)

theorem nothing_left_behind {r : Except TunnelError Unit}
    (ran : run p (.start p) as = some (s, es)) (ended : s.phase = .done r) :
    ClosedLast p as s es ∧ s.requests.manager.slot = none ∧
      ∀ t < s.requests.manager.transports.length, s.requests.manager.hasEnded t = true ∨
        ∃ c, (es.filterMap Event.manager?).filter (·.closes t) = [.closeStarted c t] := by
  have reached := run_iff.1 ran
  have stage := stage_of_reached reached
  rw [ended] at stage
  cases stage with
  | before early =>
      rcases early with early | early <;> cases early
  | done closing closed =>
      obtain ⟨bs, requested, -⟩ := exists_requested reached
      obtain ⟨cs, managed⟩ := Request.exists_managed requested
      obtain ⟨empty, gone⟩ := closing.last.settled managed closed
      rw [List.filterMap_filterMap] at gone
      exact ⟨closing.begun, empty, gone⟩

def Phase.isWell : Phase → Bool
  | .done (.ok ()) => true
  | _ => false

theorem Phase.eq_of_isWell {phase : Phase} (well : phase.isWell = true) :
    phase = .done (.ok ()) := by
  unfold Phase.isWell at well
  split at well
  · rfl
  · cases well

def sampleTunnel : Plan :=
  ⟨Manager.sampleGateway, [⟨⟨.v4 "127.0.0.1", 8080⟩, .tcp "host" 80⟩]⟩

/-- A connection whose transport dies, and another one that makes its transport while the tunnel is
already stopping. -/
def stopMeanwhile : List Action := List.flatten [
  [.forward 0 .start, .forward 0 (.accept 1 "caller"), .request (.proceed 1)],
  (Manager.acquireAlone 1).tail.map (.request ∘ .manager),
  [.request (.proceed 1), .request (.openEnded 1 (.ok ())), .request (.manager (.die 0)),
    .forward 0 (.accept 2 "caller"), .request (.proceed 2), .interrupt, .forward 0 .stop,
    .request (.copyEnded 1 (.error (.relay (.bare .interrupted)))), .returned 0 1,
    .forward 0 (.reap 1)],
  (Manager.acquireAlone 2).tail.map (.request ∘ .manager),
  [.request (.proceed 2), .request (.openEnded 2 (.error (.relay (.bare .connectionReset)))),
    .returned 0 2, .forward 0 (.reap 2), .forward 0 .finish, .proceed],
  List.replicate 4 (.request (.manager (.proceed closeCall))),
  [.request (.manager (.closeEnded closeCall (.ok ()))), .proceed]]

theorem nothing_left_behind_meanwhile : ∃ s es,
    run sampleTunnel (.start sampleTunnel) stopMeanwhile = some (s, es) ∧ s.phase = .done (.ok ()) ∧
    s.requests.manager.transports.length = 2 ∧ ClosedLast sampleTunnel stopMeanwhile s es ∧
    s.requests.manager.slot = none ∧ ∀ t < 2, s.requests.manager.hasEnded t = true ∨
      ∃ c, (es.filterMap Event.manager?).filter (·.closes t) = [.closeStarted c t] := by
  have ends : (run sampleTunnel (.start sampleTunnel) stopMeanwhile).any (fun last =>
      last.1.phase.isWell && last.1.requests.manager.transports.length == 2) = true := by
    decide +kernel
  obtain ⟨⟨s, es⟩, ran, last⟩ := (Option.any_eq_true _ _).1 ends
  obtain ⟨well, two⟩ := Bool.and_eq_true_iff.1 last
  have ended := Phase.eq_of_isWell well
  rw [beq_iff_eq] at two
  have left := nothing_left_behind ran ended
  rw [two] at left
  exact ⟨s, es, ran, ended, two, left⟩

end Tunnel

end GatewayTunnel
