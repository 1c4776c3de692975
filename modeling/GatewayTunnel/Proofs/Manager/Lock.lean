import GatewayTunnel.Proofs.Manager.Transition

/-!
# The creation lock

`LockInv` ties the holder and the queue of the lock to the places of the calls, and the slot to the
call that has emptied it: `lockInv_of_reached` says that it holds in every state that can be reached.
So at most one call has the lock, and nothing is in the slot from the moment an acquire has found no
live transport there until the moment it publishes its own.
-/

namespace GatewayTunnel.Manager

variable {g : Gateway} {s s' s₁ : State} {a : Action} {as : List Action} {es fs : List Event}
  {c c' : CallId} {t : TransportId} {p q : Phase}

namespace Phase

def hasLock : Phase → Bool
  | locked _ | ready _ | dialing _ | pausing .. | dialed | shaking | publishing _ | watching _
  | leaving _ | taken _ => true
  | _ => false

def queued : Phase → Bool
  | waiting _ => true
  | _ => false

/-- The call has the lock and has left the slot empty: an acquire until it publishes, or a close. -/
def emptied : Phase → Bool
  | ready _ | dialing _ | pausing .. | dialed | shaking | publishing _ | taken _ => true
  | _ => false

theorem hasLock_of_emptied (h : p.emptied = true) : p.hasLock = true := by
  cases p <;> simp_all [emptied, hasLock]

end Phase

theorem Alone.hasLock_eq (h : Alone g c a p q es) : q.hasLock = p.hasLock := by
  cases h <;> rfl

theorem Alone.queued_eq (h : Alone g c a p q es) : q.queued = p.queued := by
  cases h <;> rfl

theorem Alone.emptied_of (h : Alone g c a p q es) (empty : q.emptied = true) :
    p.emptied = true := by
  cases h <;> simp_all [Phase.emptied]

theorem Leaving.hasLock_eq (h : Leaving c p q es) : p.hasLock = true ∧ q.hasLock = false := by
  cases h <;> exact ⟨rfl, rfl⟩

theorem Leaving.queued_eq (h : Leaving c p q es) : q.queued = false := by
  cases h <;> rfl

theorem Leaving.emptied_eq (h : Leaving c p q es) : q.emptied = false := by
  cases h <;> rfl

/-- What the lock and the slot say about the places of the calls. -/
structure LockInv (s : State) : Prop where
  holder : ∀ c, s.holder = some c ↔ (s.calls c).hasLock = true
  queue : ∀ c, c ∈ s.queue ↔ (s.calls c).queued = true
  nodup : s.queue.Nodup
  idle : s.holder = none → s.queue = []
  vacant : ∀ c, (s.calls c).emptied = true → s.slot = none

theorem LockInv.unique (inv : LockInv s) (h : (s.calls c).hasLock = true)
    (h' : (s.calls c').hasLock = true) : c = c' :=
  Option.some.inj (((inv.holder c).2 h).symm.trans ((inv.holder c').2 h'))

theorem lockInv_start : LockInv .start := by
  constructor <;> simp [State.start, Phase.hasLock, Phase.queued, Phase.emptied]

theorem LockInv.move (inv : LockInv s) (phase : s.calls c = p) (lock : q.hasLock = p.hasLock)
    (queue : q.queued = p.queued)
    (vacant : ∀ c', ((s.move c q).calls c').emptied = true → s.slot = none) :
    LockInv (s.move c q) where
  holder c' := by
    by_cases h : c' = c
    · subst h
      simpa [lock, phase] using inv.holder c'
    · simpa [State.move_calls_ne h] using inv.holder c'
  queue c' := by
    by_cases h : c' = c
    · subst h
      simpa [queue, phase] using inv.queue c'
    · simpa [State.move_calls_ne h] using inv.queue c'
  nodup := inv.nodup
  idle := inv.idle
  vacant := vacant

theorem LockInv.congr (inv : LockInv s) (holder : s'.holder = s.holder)
    (queue : s'.queue = s.queue) (calls : s'.calls = s.calls)
    (vacant : ∀ c, (s.calls c).emptied = true → s'.slot = none) : LockInv s' where
  holder c := by rw [holder, calls]; exact inv.holder c
  queue c := by rw [queue, calls]; exact inv.queue c
  nodup := by rw [queue]; exact inv.nodup
  idle := by rw [holder, queue]; exact inv.idle
  vacant c := by rw [calls]; exact vacant c

theorem LockInv.pass (inv : LockInv s) (phase : s.calls c = p) (lock : q.hasLock = p.hasLock)
    (queue : q.queued = p.queued) (idle : q.emptied = false) : LockInv (s.move c q) := by
  refine inv.move phase lock queue fun c' empty => ?_
  by_cases h : c' = c
  · subst h
    simp [idle] at empty
  · rw [State.move_calls_ne h] at empty
    exact inv.vacant c' empty

theorem LockInv.lock {goal : Goal} (inv : LockInv s) (phase : s.calls c = .asking goal)
    (free : s.holder = none) : LockInv ({ s with holder := some c }.move c (.locked goal)) where
  holder c' := by
    by_cases h : c' = c
    · subst h
      simp [Phase.hasLock]
    · have := inv.holder c'
      simp_all [State.move_calls, Ne.symm h]
  queue c' := by
    by_cases h : c' = c
    · subst h
      simpa [phase, Phase.queued] using inv.queue c'
    · simpa [State.move_calls, h] using inv.queue c'
  nodup := inv.nodup
  idle := by simp
  vacant c' empty := by
    by_cases h : c' = c
    · subst h
      simp [Phase.emptied] at empty
    · simp only [State.move_calls, h, if_false] at empty
      exact inv.vacant c' empty

theorem LockInv.wait {goal : Goal} (inv : LockInv s) (phase : s.calls c = .asking goal)
    (busy : ¬(s.holder = none ∧ s.queue = [])) :
    LockInv ({ s with queue := s.queue ++ [c] }.move c (.waiting goal)) where
  holder c' := by
    by_cases h : c' = c
    · subst h
      simpa [phase, Phase.hasLock] using inv.holder c'
    · simpa [State.move_calls, h] using inv.holder c'
  queue c' := by
    by_cases h : c' = c
    · subst h
      simp [Phase.queued]
    · simpa [State.move_calls, h] using inv.queue c'
  nodup := by
    have absent : c ∉ s.queue := by simp [inv.queue, phase, Phase.queued]
    simpa [List.nodup_append, inv.nodup] using fun x mem => ne_of_mem_of_not_mem mem absent
  idle free := absurd ⟨free, inv.idle free⟩ busy
  vacant c' empty := by
    by_cases h : c' = c
    · subst h
      simp [Phase.emptied] at empty
    · simp only [State.move_calls, h, if_false] at empty
      exact inv.vacant c' empty

theorem LockInv.head_ne (inv : LockInv s) (lock : (s.calls c).hasLock = true)
    (head : s.queue.head? = some c') : c' ≠ c := by
  intro same
  have queued := (inv.queue c').1 (List.mem_of_head? head)
  rw [same] at queued
  cases phase : s.calls c <;> simp_all [Phase.hasLock, Phase.queued]

theorem LockInv.release (inv : LockInv s) (lock : (s.calls c).hasLock = true)
    (gone : q.hasLock = false) (unqueued : q.queued = false) (idle : q.emptied = false) :
    LockInv (s.release c q).1 where
  holder c' := by
    rw [State.release_holder, State.release_calls]
    by_cases head : s.queue.head? = some c'
    · simp [head, Phase.hasLock]
    · by_cases h : c' = c
      · subst h
        simp [head, gone]
      · simp only [head, if_false, State.move_calls_ne h, false_iff]
        exact fun h' => h (inv.unique h' lock)
  queue c' := by
    rw [State.release_queue, State.release_calls]
    have nodup := inv.nodup
    have mem := inv.queue c'
    cases queue : s.queue with
    | nil =>
        by_cases h : c' = c
        · subst h
          simp [unqueued]
        · simpa [queue, State.move_calls_ne h] using mem
    | cons next rest =>
        simp only [queue, List.nodup_cons] at nodup
        by_cases head : next = c'
        · subst head
          simpa [Phase.queued] using nodup.1
        · by_cases h : c' = c
          · subst h
            -- The call had the lock, so it was not in the queue.
            have out : c' ∉ s.queue := by
              rw [mem]
              cases phase : s.calls c' <;> simp_all [Phase.hasLock, Phase.queued]
            simp_all
          · simpa [queue, head, Ne.symm head, State.move_calls_ne h] using mem
  nodup := by rw [State.release_queue]; exact inv.nodup.tail
  idle free := by simp_all
  vacant c' empty := by
    rw [State.release_slot]
    rw [State.release_calls] at empty
    by_cases head : s.queue.head? = some c'
    · simp [head, Phase.emptied] at empty
    · by_cases h : c' = c
      · subst h
        simp [head, idle] at empty
      · simp only [head, if_false, State.move_calls_ne h] at empty
        exact inv.vacant c' empty

theorem LockInv.step (inv : LockInv s) (h : Transition g s a s' es) : LockInv s' := by
  cases h with
  | alone own phase =>
      refine inv.move phase own.hasLock_eq own.queued_eq fun c' empty => ?_
      rw [State.move_calls] at empty
      split at empty
      · exact inv.vacant _ (by rw [phase]; exact own.emptied_of empty)
      · exact inv.vacant c' empty
  | hit phase => exact inv.pass phase rfl rfl rfl
  | miss phase => exact inv.pass phase rfl rfl rfl
  | lock phase free => exact inv.lock phase free
  | wait phase busy => exact inv.wait phase busy
  | reuse phase => exact inv.pass phase rfl rfl rfl
  | vacant phase slot => exact inv.move phase rfl rfl fun _ _ => slot
  | evict phase =>
      have emptied : LockInv { s with slot := none } := inv.congr rfl rfl rfl fun _ _ => rfl
      exact emptied.move phase rfl rfl fun _ _ => rfl
  | takeNothing phase slot => exact inv.move phase rfl rfl fun _ _ => slot
  | take phase =>
      have emptied : LockInv { s with slot := none } := inv.congr rfl rfl rfl fun _ _ => rfl
      exact emptied.move phase rfl rfl fun _ _ => rfl
  | @create c phase =>
      have slot : s.slot = none := inv.vacant c (by rw [phase]; rfl)
      have made : LockInv { s with transports := s.transports ++ [Transport.mk false .unwatched] } :=
        inv.congr rfl rfl rfl inv.vacant
      exact made.move phase rfl rfl fun _ _ => slot
  | @publish c t phase =>
      have moved : LockInv (s.move c (.watching t)) := inv.pass phase rfl rfl rfl
      -- Only the call with the lock can rely on an empty slot, and that call has just filled it.
      refine moved.congr rfl rfl rfl fun c' empty => ?_
      obtain rfl : c' = c :=
        moved.unique (Phase.hasLock_of_emptied empty) (by rw [State.move_calls_self]; rfl)
      rw [State.move_calls_self] at empty
      cases empty
  | @watch c t phase =>
      have watched : LockInv (s.change t fun x => { x with watch := .running }) :=
        inv.congr rfl rfl rfl inv.vacant
      exact watched.pass phase rfl rfl rfl
  | leave own phase =>
      obtain ⟨lock, gone⟩ := own.hasLock_eq
      exact inv.release (by rw [phase]; exact lock) gone own.queued_eq own.emptied_eq
  | die => exact inv.congr rfl rfl rfl inv.vacant
  | clear => exact inv.congr rfl rfl rfl fun _ _ => rfl
  | pass => exact inv.congr rfl rfl rfl inv.vacant

theorem lockInv_of_reached (reached : Reached g as s es) : LockInv s := by
  induction reached with
  | refl => exact lockInv_start
  | snoc _ moved ih => exact ih.step (.of_step moved)

end GatewayTunnel.Manager
