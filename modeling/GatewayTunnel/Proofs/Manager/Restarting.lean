import GatewayTunnel.Proofs.Manager.Budget
import GatewayTunnel.Proofs.Manager.LastClose
import GatewayTunnel.Proofs.Manager.Watching

/-!
# Starting afresh

An acquire that fails leaves the slot empty, and the slot stays so until the next acquire that gets the
lock has looked at it. From there that acquire goes on as if the manager were new: `Mirror` pairs it with
the same acquire in a manager of its own, where the transports are numbered from 0, and every step of the
one is a step of the other (`starts_afresh`). All that failing acquires do and leave behind is
`failing_leaves_ready`.
-/

namespace GatewayTunnel.Manager

variable {g : Gateway} {s s' s₁ f f' : State} {a : Action} {as bs : List Action}
  {es es₁ fs : List Event} {c c' : CallId} {t : TransportId} {p q : Phase} {e : TunnelError} {n : Nat}

/-! ## Transports that were made before -/

def Reply.after (n : Nat) : Reply → Reply
  | acquired t => acquired (n + t)
  | r => r

def Phase.after (n : Nat) : Phase → Phase
  | publishing t => publishing (n + t)
  | watching t => watching (n + t)
  | leaving r => leaving (r.after n)
  | done r => done (r.after n)
  | p => p

def Event.after (n : Nat) : Event → Event
  | created c t => created c (n + t)
  | published c t => published c (n + t)
  | watched c t => watched c (n + t)
  | returned c r => returned c (r.after n)
  | e => e

/-- From the state on, the call goes on as an acquire does that has a new manager for itself and is told the
same: it comes to the same places, shows the same, and can take the same steps. -/
def StartsAfresh (g : Gateway) (s : State) (c : CallId) : Prop :=
  ∀ bs s' es, run g s bs = some (s', es) → ∃ f fs,
    run g .start ([.arrive c .acquire, .proceed c, .proceed c] ++ bs.filter (·.caller? = some c)) =
      some (f, fs) ∧
    es.filter (·.isOf c) = fs.map (Event.after s.transports.length) ∧
    s'.calls c = (f.calls c).after s.transports.length ∧
    ∀ a, a.caller? = some c → (step g s' a).isSome = (step g f a).isSome

/-! ## Two managers in step -/

namespace Phase

def unmade : Phase → Bool
  | locked .acquire | ready _ | dialing _ | pausing .. | dialed | shaking => true
  | _ => false

def proceeds : Phase → Bool
  | entered | asking _ | locked _ | ready _ | dialed | publishing _ | watching _ | leaving _ | taken _
  | toClose _ => true
  | _ => false

def begun : Phase → Bool
  | publishing _ | watching _ | leaving _ | done _ => true
  | p => p.unmade

theorem hasLock_of_unmade (unmade : p.unmade = true) : p.hasLock = true := by
  cases p <;> simp_all [Phase.unmade, hasLock]

end Phase

/-- The call is at the same place in a manager of its own. Until it has looked, it will find both slots
empty, and until it has made a transport, none is made. -/
structure Mirror (n : Nat) (c : CallId) (s f : State) : Prop where
  place : s.calls c = (f.calls c).after n
  begun : (f.calls c).begun = true
  alone : f.queue = []
  vacant : f.calls c = .locked .acquire → s.slot = none ∧ f.slot = none
  unmade : (f.calls c).unmade = true → s.transports.length = n ∧ f.transports = []

theorem Alone.step (own : Alone g c a p q es) (phase : s.calls c = p) :
    Manager.step g s a = some (s.move c q, es) := by
  cases own <;> simp_all [Manager.step, State.proceed, State.afterDial]

theorem State.proceed_isSome : (s.proceed c).isSome = (s.calls c).proceeds := by
  cases phase : s.calls c with
  | entered => cases live : s.live? <;> simp [proceed, phase, live, Phase.proceeds]
  | locked goal => cases goal <;> simp [proceed, phase, Phase.proceeds]
  | taken t => cases t <;> simp [proceed, phase, Phase.proceeds]
  | _ => simp [proceed, phase, Phase.proceeds]

theorem step_isSome_after (place : s.calls c = (f.calls c).after n) (own : a.caller? = some c) :
    (step g s a).isSome = (step g f a).isSome := by
  cases a with
  | die | notice => cases own
  | arrive d goal =>
      cases own
      cases phase : f.calls c <;> cases goal <;> simp [step, place, phase, Phase.after]
  | dialEnded d r | shakeEnded d r =>
      cases own
      cases phase : f.calls c <;> cases r <;> simp [step, place, phase, Phase.after]
  | pauseEnded d | closeEnded d r =>
      cases own
      cases phase : f.calls c <;> simp [step, place, phase, Phase.after]
  | proceed d =>
      cases own
      rw [step, step, State.proceed_isSome, State.proceed_isSome, place]
      cases f.calls c <;> rfl

theorem Transition.length_eq (inv : LockInv s) (h : Transition g s a s' fs)
    (lock : (s.calls c).hasLock = true) (other : a.caller? ≠ some c) :
    s'.transports.length = s.transports.length := by
  cases h with
  | create phase =>
      have same := inv.unique (by rw [phase]; rfl) lock
      exact absurd (congrArg some same) other
  | _ => simp

theorem Turn.waiting_of_other (turn : Turn g c a p q fs) (other : a.caller? ≠ some c) :
    ∃ goal, p = .waiting goal := by
  cases turn with
  | alone own => exact absurd own.caller?_eq other
  | handed goal => exact ⟨goal, rfl⟩
  | _ => exact absurd rfl other

theorem Turn.of_leaving {r : Reply} (turn : Turn g c a (.leaving r) q fs) :
    q = .done r ∧ fs = [.returned c r] := by
  cases turn with
  | alone own => cases own
  | leave own =>
      cases own
      exact ⟨rfl, rfl⟩

@[simp] theorem Phase.begun_after : (p.after n).begun = p.begun := by
  cases p with
  | locked goal => cases goal <;> rfl
  | _ => rfl

theorem Phase.after_of_unmade (unmade : p.unmade = true) : p.after n = p := by
  cases p <;> simp_all [Phase.unmade, after]

theorem Phase.eq_of_after (same : p.after n = q) (unmade : q.unmade = true) : p = q := by
  subst same
  cases p <;> simp_all [after, Phase.unmade]

theorem Phase.eq_publishing_of_after (same : p.after n = .publishing t) :
    ∃ u, p = .publishing u ∧ t = n + u := by
  cases p <;> simp_all [after]

theorem Phase.eq_watching_of_after (same : p.after n = .watching t) :
    ∃ u, p = .watching u ∧ t = n + u := by
  cases p <;> simp_all [after]

theorem Phase.eq_leaving_of_after {r : Reply} (same : p.after n = .leaving r) :
    ∃ r', p = .leaving r' ∧ r = r'.after n := by
  cases p <;> simp_all [after]

theorem Alone.unmade (own : Alone g c a p q es) (begun : p.begun = true) : p.unmade = true ∧
    q.begun = true ∧ q ≠ .locked .acquire ∧ q.after n = q ∧ es.map (Event.after n) = es := by
  cases own <;> simp_all [Phase.begun, Phase.unmade, Phase.after, Reply.after, Event.after]

namespace Mirror

theorem other (mirror : Mirror n c s f) (inv : LockInv s) (h : Transition g s a s' fs)
    (other : a.caller? ≠ some c) : Mirror n c s' f ∧ fs.filter (·.isOf c) = [] := by
  rcases h.turn inv c with ⟨same, none, -⟩ | turn
  · refine ⟨?_, none⟩
    exact {
      place := same.trans mirror.place
      begun := mirror.begun
      alone := mirror.alone
      vacant := fun look => by
        obtain ⟨empty, fresh⟩ := mirror.vacant look
        have phase : s.calls c = .locked .acquire := by rw [mirror.place, look]; rfl
        have lock : (s.calls c).hasLock = true := by rw [phase]; rfl
        refine ⟨h.slot_eq_none empty fun d t publishing => ?_, fresh⟩
        obtain rfl := inv.unique (by rw [publishing]; rfl) lock
        rw [phase] at publishing
        cases publishing
      unmade := fun unmade => by
        have lock : (s.calls c).hasLock = true := by
          rw [mirror.place, Phase.after_of_unmade unmade]
          exact Phase.hasLock_of_unmade unmade
        rw [h.length_eq inv lock other]
        exact mirror.unmade unmade }
  · -- Only a call that waits is moved by another one, and this one has the lock behind it.
    obtain ⟨goal, waits⟩ := turn.waiting_of_other other
    have begun : (s.calls c).begun = true := by
      rw [mirror.place, Phase.begun_after]
      exact mirror.begun
    rw [waits] at begun
    cases begun

theorem of_made (place : s.calls c = (f.calls c).after n) (begun : (f.calls c).begun = true)
    (made : (f.calls c).unmade = false) (alone : f.queue = []) : Mirror n c s f where
  place := place
  begun := begun
  alone := alone
  vacant look := by
    rw [look] at made
    cases made
  unmade unmade := by
    rw [made] at unmade
    cases unmade

theorem move (mirror : Mirror n c s f) (own : Alone g c a p q es) (phase : s.calls c = p) :
    step g f a = some (f.move c q, es) ∧ es = es.map (Event.after n) ∧
      Mirror n c (s.move c q) (f.move c q) := by
  have place : (f.calls c).after n = p := mirror.place.symm.trans phase
  have begun : p.begun = true := by
    rw [← place, Phase.begun_after]
    exact mirror.begun
  obtain ⟨unmade, begun', looked, fixed, shown⟩ := own.unmade (n := n) begun
  have phase' : f.calls c = p := Phase.eq_of_after place unmade
  refine ⟨own.step phase', shown.symm, ?_⟩
  exact {
    place := by rw [State.move_calls_self, State.move_calls_self, fixed]
    begun := by rw [State.move_calls_self]; exact begun'
    alone := mirror.alone
    vacant := fun look => absurd (State.move_calls_self.symm.trans look) looked
    unmade := fun _ => mirror.unmade (phase' ▸ unmade) }

theorem step (mirror : Mirror n c s f) (inv : LockInv s) (h : Transition g s a s' fs)
    (own : a.caller? = some c) : ∃ f' gs, Manager.step g f a = some (f', gs) ∧
      fs.filter (·.isOf c) = gs.map (Event.after n) ∧ Mirror n c s' f' := by
  have begun : (s.calls c).begun = true := by
    rw [mirror.place, Phase.begun_after]
    exact mirror.begun
  cases h with
  | alone own' phase =>
      obtain rfl := Option.some.inj (own'.caller?_eq.symm.trans own)
      obtain ⟨moved, shown, mirror'⟩ := mirror.move own' phase
      exact ⟨_, _, moved, by rw [filter_isOf_self own'.isOf]; exact shown, mirror'⟩
  | hit phase | miss phase | lock phase | wait phase | takeNothing phase | take phase =>
      cases own
      rw [phase] at begun
      cases begun
  | reuse phase slot | evict phase slot =>
      cases own
      have phase' := Phase.eq_of_after (mirror.place.symm.trans phase) rfl
      -- The call has not looked yet, and until then the slot is empty.
      rw [(mirror.vacant phase').1] at slot
      cases slot
  | vacant phase slot =>
      cases own
      have phase' := Phase.eq_of_after (mirror.place.symm.trans phase) rfl
      have moved : Manager.step g f (.proceed c) =
          some ({ f with slot := none }.move c (.ready .start), []) := by
        simp [Manager.step, State.proceed, phase', State.recheck, State.live?,
          (mirror.vacant phase').2]
      refine ⟨_, _, moved, rfl, ?_⟩
      exact {
        place := by simp [Phase.after]
        begun := by rw [State.move_calls_self]; rfl
        alone := mirror.alone
        vacant := fun look => by simp at look
        unmade := fun _ => mirror.unmade (by rw [phase']; rfl) }
  | create phase =>
      cases own
      have phase' := Phase.eq_of_after (mirror.place.symm.trans phase) rfl
      obtain ⟨length, fresh⟩ := mirror.unmade (by rw [phase']; rfl)
      have moved : Manager.step g f (.shakeEnded c (.ok ())) =
          some ({ f with transports := [Transport.mk false .unwatched] }.move c (.publishing 0),
            [.created c 0]) := by
        simp [Manager.step, phase', fresh]
      refine ⟨_, _, moved, by simp [Event.isOf, Event.caller?, Event.after, length], ?_⟩
      exact of_made (by simp [Phase.after, length]) (by simp [Phase.begun]) (by simp [Phase.unmade])
        mirror.alone
  | publish phase =>
      cases own
      obtain ⟨u, phase', rfl⟩ := Phase.eq_publishing_of_after (mirror.place.symm.trans phase)
      have moved : Manager.step g f (.proceed c) =
          some ({ f with slot := some u }.move c (.watching u), [.published c u]) := by
        simp [Manager.step, State.proceed, phase']
      refine ⟨_, _, moved, by simp [Event.isOf, Event.caller?, Event.after], ?_⟩
      exact of_made (by simp [Phase.after]) (by simp [Phase.begun]) (by simp [Phase.unmade])
        mirror.alone
  | watch phase =>
      cases own
      obtain ⟨u, phase', rfl⟩ := Phase.eq_watching_of_after (mirror.place.symm.trans phase)
      have moved : Manager.step g f (.proceed c) =
          some ((f.change u fun x => { x with watch := .running }).move c (.leaving (.acquired u)),
            [.watched c u]) := by
        simp [Manager.step, State.proceed, phase']
      refine ⟨_, _, moved, by simp [Event.isOf, Event.caller?, Event.after], ?_⟩
      exact of_made (by simp [Phase.after, Reply.after]) (by simp [Phase.begun])
        (by simp [Phase.unmade]) mirror.alone
  | leave own' phase =>
      cases own
      cases own' with
      | nothing | close =>
          rw [phase] at begun
          cases begun
      | reply r =>
          -- Nobody waits in the other manager, so that nothing but the reply is shown there.
          obtain ⟨r', phase', rfl⟩ := Phase.eq_leaving_of_after (mirror.place.symm.trans phase)
          have moved : Manager.step g f (.proceed c) =
              some ((f.release c (.done r')).1, [.returned c r']) := by
            have quiet : (f.release c (.done r')).2 = [] := by
              rw [State.release_shown, mirror.alone]
              rfl
            simp [Manager.step, State.proceed, phase', quiet]
          have place : (f.release c (.done r')).1.calls c = .done r' := by
            simp [State.release_calls, mirror.alone]
          rcases inv.turn_release (g := g) (.reply _) phase c with ⟨-, -, unmoved⟩ | turn
          · exact absurd rfl unmoved
          · rw [phase] at turn
            obtain ⟨place', shown⟩ := turn.of_leaving
            refine ⟨_, _, moved, by rw [shown]; rfl, ?_⟩
            exact of_made (by rw [place', place]; rfl) (by rw [place]; rfl) (by rw [place]; rfl)
              (by rw [State.release_queue, mirror.alone]; rfl)
  | die | clear | pass => cases own

/-- What the call does among others, it does in its own manager. -/
theorem run (mirror : Mirror n c s f) (reached : Reached g as s es₁)
    (since : Reaches (Manager.step g) s bs s' es) : ∃ f' fs,
      Reaches (Manager.step g) f (bs.filter (·.caller? = some c)) f' fs ∧
      es.filter (·.isOf c) = fs.map (Event.after n) ∧ Mirror n c s' f' := by
  induction since with
  | refl => exact ⟨f, [], .refl, rfl, mirror⟩
  | @snoc bs u l a u' fs before moved ih =>
      obtain ⟨f', shown, path, same, mirror'⟩ := ih
      have inv := lockInv_of_reached (reached.trans before)
      by_cases own : a.caller? = some c
      · obtain ⟨f'', more, moved', same', mirror''⟩ := mirror'.step inv (.of_step moved) own
        refine ⟨f'', shown ++ more, ?_, ?_, mirror''⟩
        · rw [List.filter_append, List.filter_cons_of_pos (by simpa using own)]
          exact path.snoc moved'
        · rw [List.filter_append, same, same', List.map_append]
      · obtain ⟨mirror'', quiet⟩ := mirror'.other inv (.of_step moved) own
        refine ⟨f', shown, ?_, ?_, mirror''⟩
        · rw [List.filter_append, List.filter_cons_of_neg (by simpa using own)]
          simpa using path
        · rw [List.filter_append, same, quiet, List.append_nil]

end Mirror

def arrived (c : CallId) : State :=
  { State.start with holder := some c }.move c (.locked .acquire)

theorem run_arrived :
    run g .start [.arrive c .acquire, .proceed c, .proceed c] = some (arrived c, []) := by
  have calls : ∀ c', (if c' = c then Phase.locked .acquire else if c' = c then .asking .acquire
      else if c' = c then .entered else .absent) = if c' = c then .locked .acquire else .absent := by
    intro c'
    split <;> rfl
  simp [run, step, State.proceed, State.ask, State.live?, arrived, State.start, State.move, calls]

theorem starts_afresh (reached : Reached g as s es) (phase : s.calls c = .locked .acquire)
    (slot : s.slot = none) : StartsAfresh g s c := by
  have mirror : Mirror s.transports.length c s (arrived c) := {
    place := by simp [arrived, phase, Phase.after]
    begun := by simp [arrived, Phase.begun, Phase.unmade]
    alone := rfl
    vacant := fun _ => ⟨slot, rfl⟩
    unmade := fun _ => ⟨rfl, rfl⟩ }
  intro bs s' es' ran
  obtain ⟨f, fs, path, same, mirror'⟩ := mirror.run reached (run_iff.1 ran)
  refine ⟨f, fs, ?_, same, mirror'.place, fun a own => step_isSome_after mirror'.place own⟩
  exact run_iff.2 ((run_iff.1 run_arrived).trans path)

/-! ## The slot after a failure -/

theorem Turn.to_failed (turn : Turn g c a p (.leaving (.failed e)) fs) :
    p.emptied = true ∧ ∀ t, p ≠ .publishing t := by
  cases turn with
  | alone own => cases own <;> exact ⟨rfl, nofun⟩
  | leave own => cases own

theorem slot_of_failing (reached : Reached g as s es) (failing : s.calls c = .leaving (.failed e)) :
    s.slot = none := by
  induction reached with
  | refl => cases failing
  | @snoc as u es a s fs before moved ih =>
      have inv := lockInv_of_reached before
      have h := Transition.of_step moved
      have place : u.slot = none ∧ (u.calls c).hasLock = true ∧ ∀ t, u.calls c ≠ .publishing t := by
        rcases h.turn inv c with ⟨same, -⟩ | turn
        · have failing' := same.symm.trans failing
          exact ⟨ih failing', by rw [failing']; rfl, by simp [failing']⟩
        · rw [failing] at turn
          obtain ⟨emptied, unmade⟩ := turn.to_failed
          exact ⟨inv.vacant c emptied, Phase.hasLock_of_emptied emptied, unmade⟩
      obtain ⟨empty, lock, unmade⟩ := place
      refine h.slot_eq_none empty fun d t publishing => ?_
      obtain rfl := inv.unique (by rw [publishing]; rfl) lock
      exact unmade t publishing

theorem unwatched_of_failing (reached : Reached g as s es)
    (failing : s.calls c = .leaving (.failed e)) (t : TransportId) : .watched c t ∉ es := by
  intro watched
  have guarded := guarded_of_reached reached c
  rw [failing] at guarded
  have mem := mem_guards.2 ⟨watched, rfl, rfl⟩
  rw [show _ = [] from guarded] at mem
  cases mem

def Phase.looked : Phase → Bool
  | locked _ => false
  | p => p.begun

theorem Turn.looked (turn : Turn g c a p q fs) (looked : p.looked = true) : q.looked = true := by
  cases turn with
  | alone own => cases own <;> simp_all [Phase.looked, Phase.begun, Phase.unmade]
  | leave own => cases own <;> simp_all [Phase.looked, Phase.begun, Phase.unmade]
  | _ => simp_all [Phase.looked, Phase.begun, Phase.unmade]

theorem Phase.looked_of_building (building : p.building = true) : p.looked = true := by
  cases p <;> simp_all [Phase.building, Phase.looked, Phase.begun, Phase.unmade]

theorem Turn.to_building (turn : Turn g c a p q fs) (building : q.building = true) :
    p.hasLock = true ∧ (p.building = true ∨ p = .locked .acquire) := by
  cases turn with
  | alone own => cases own <;> simp_all [Phase.building, Phase.hasLock]
  | leave own => cases own <;> simp_all [Phase.building]
  | _ => simp_all [Phase.building, Phase.hasLock]

theorem idle_after_failing (inv : LockInv s) (failing : s.calls c = .leaving (.failed e))
    (h : Transition g s (.proceed c) s' fs) (d : CallId) : (s'.calls d).building = false := by
  rw [Bool.eq_false_iff]
  intro building
  have place : (s.calls d).hasLock = true ∧ ((s.calls d).building = true ∨
      s.calls d = .locked .acquire) := by
    rcases h.turn inv d with ⟨same, -⟩ | turn
    · rw [same] at building
      exact ⟨Phase.hasLock_of_emptied (Phase.emptied_of_building building), .inl building⟩
    · exact turn.to_building building
  obtain ⟨lock, before⟩ := place
  obtain rfl := inv.unique lock (by rw [failing]; rfl : (s.calls c).hasLock = true)
  rcases before with builds | locked
  · rw [failing] at builds
    cases builds
  · rw [failing] at locked
    cases locked

/-- Along the actions no other acquire gets the lock. -/
def FirstToLock (g : Gateway) (s : State) (bs : List Action) (c : CallId) : Prop :=
  ∀ front back u fs, bs = front ++ back → run g s front = some (u, fs) →
    ∀ c', u.calls c' = .locked .acquire → c' = c

theorem firstToLock_nil (reached : Reached g as s es) (locked : s.calls c = .locked .acquire) :
    FirstToLock g s [] c := by
  intro front back u fs same ran c' locked'
  obtain ⟨rfl, -⟩ := List.append_eq_nil_iff.1 same.symm
  cases ran
  exact (lockInv_of_reached reached).unique (by rw [locked']; rfl) (by rw [locked]; rfl)

/-- An empty slot stays empty until the next acquire that gets the lock has looked at it. -/
theorem empty_until_look (reached : Reached g as s₁ es₁) (empty : s₁.slot = none)
    (idle : ∀ d, (s₁.calls d).building = false) (since : Reaches (step g) s₁ bs s es)
    (first : FirstToLock g s₁ bs c) :
    (s.calls c).looked = true ∨ (s.slot = none ∧ ∀ d, (s.calls d).building = false) := by
  induction since with
  | refl => exact .inr ⟨empty, idle⟩
  | @snoc bs u es a u' fs before moved ih =>
      have inv := lockInv_of_reached (reached.trans before)
      have h := Transition.of_step moved
      have first' : FirstToLock g s₁ bs c := fun front back v l same ran =>
        first front (back ++ [a]) v l (by rw [same, List.append_assoc]) ran
      rcases ih first' with looked | ⟨empty, idle⟩
      · exact .inl (h.keeps (P := fun p => p.looked = true) inv Turn.looked looked)
      · by_cases builds : ∃ d, (u'.calls d).building = true
        · -- Whoever builds now has just looked, and only the given call can have.
          obtain ⟨d, building⟩ := builds
          rcases h.turn inv d with ⟨same, -⟩ | turn
          · rw [same, idle d] at building
            cases building
          · rcases (turn.to_building building).2 with before' | locked
            · rw [idle d] at before'
              cases before'
            · obtain rfl := first bs [a] u es rfl (run_iff.2 before) d locked
              exact .inl (Phase.looked_of_building building)
        · refine .inr ⟨h.slot_eq_none empty fun d t publishing => ?_, by simpa using builds⟩
          have none := idle d
          rw [publishing] at none
          cases none

/-- What a failing acquire leaves behind when it gives the lock back: no transport in the slot and no
watcher of its own, so that the next acquire that gets the lock starts afresh. -/
structure LeavesReady (g : Gateway) (c : CallId) (s : State) (es : List Event) : Prop where
  vacant : s.slot = none
  unwatched : ∀ t, .watched c t ∉ es
  released : ∀ s₁ fs, step g s (.proceed c) = some (s₁, fs) →
    s₁.slot = none ∧ s₁.holder = s.queue.head?
  next : ∀ s₁ fs bs s₂ gs c', step g s (.proceed c) = some (s₁, fs) → run g s₁ bs = some (s₂, gs) →
    FirstToLock g s₁ bs c' → s₂.calls c' = .locked .acquire →
    s₂.slot = none ∧ StartsAfresh g s₂ c'

theorem leavesReady_of_reached (reached : Reached g as s es)
    (failing : s.calls c = .leaving (.failed e)) : LeavesReady g c s es := by
  have vacant := slot_of_failing reached failing
  have released : ∀ s₁ fs, step g s (.proceed c) = some (s₁, fs) →
      s₁.slot = none ∧ s₁.holder = s.queue.head? := by
    intro s₁ fs moved
    obtain rfl : s₁ = (s.release c (.done (.failed e))).1 := by
      simpa [step, State.proceed, failing, eq_comm] using congrArg (Option.map Prod.fst) moved
    exact ⟨by rw [State.release_slot, vacant], State.release_holder⟩
  refine ⟨vacant, unwatched_of_failing reached failing, released, ?_⟩
  intro s₁ fs bs s₂ gs c' moved ran first locked
  have idle := idle_after_failing (lockInv_of_reached reached) failing (.of_step moved)
  have since := run_iff.1 ran
  have reached₁ := reached.snoc moved
  rcases empty_until_look reached₁ (released s₁ fs moved).1 idle since first with looked | ⟨empty, -⟩
  · rw [locked] at looked
    cases looked
  · exact ⟨empty, starts_afresh (reached₁.trans since) locked empty⟩

/-- Each acquire keeps to a budget of its own and fails with what failed, and an acquire that fails leaves
the manager ready for the next one. -/
theorem failing_leaves_ready (ran : run g .start as = some (s, es)) :
    (∀ c, .arrive c .acquire ∈ as → Budget g c as s es) ∧
    ∀ c e, s.calls c = .leaving (.failed e) → LeavesReady g c s es := by
  have reached := run_iff.1 ran
  exact ⟨fun c => budget_of_reached reached, fun c e => leavesReady_of_reached reached⟩

def redialInVain : List Action :=
  redial ++ [.proceed 1, .dialEnded 1 (.error (.system 111)), .pauseEnded 1,
    .proceed 1, .dialEnded 1 (.error (.system 110)), .pauseEnded 1,
    .proceed 1, .dialEnded 1 (.error (.system 111))]

/-- Call 2 gets the lock from call 1, which has failed after the transport of call 0 died. -/
theorem failing_leaves_ready_queue : ∃ s es e s₁ fs,
    run sampleGateway .start redialInVain = some (s, es) ∧ s.calls 1 = .leaving (.failed e) ∧
    Budget sampleGateway 1 redialInVain s es ∧ step sampleGateway s (.proceed 1) = some (s₁, fs) ∧
    s₁.transports.length = 1 ∧ s₁.calls 2 = .locked .acquire ∧ s₁.slot = none ∧
    StartsAfresh sampleGateway s₁ 2 := by
  have ran : run sampleGateway .start redialInVain = some (_, _) := rfl
  have ready := failing_leaves_ready ran
  have reached := (run_iff.1 ran).snoc (a := .proceed 1) rfl
  have first := firstToLock_nil reached (c := 2) rfl
  refine ⟨_, _, _, _, _, ran, rfl, ready.1 1 (by simp [redialInVain, redial]), rfl, rfl, rfl, ?_⟩
  exact (ready.2 1 _ rfl).next _ _ [] _ _ 2 rfl rfl first rfl

end GatewayTunnel.Manager
