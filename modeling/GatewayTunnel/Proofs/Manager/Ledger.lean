import GatewayTunnel.Proofs.Manager.Call

namespace GatewayTunnel.Manager

variable {g : Gateway} {s s' : State} {a : Action} {as : List Action} {es fs : List Event}
  {c c' : CallId} {t : TransportId} {p q : Phase} {e : Event}

namespace Event

def created? : Event → Option TransportId
  | created _ t => some t
  | _ => none

def published? : Event → Option TransportId
  | published _ t => some t
  | _ => none

def reaped? : Event → Option TransportId
  | evicted _ t | cleared t => some t
  | _ => none

def taken? : Event → Option TransportId
  | took _ t => some t
  | _ => none

def departed? (e : Event) : Option TransportId :=
  e.reaped? <|> e.taken?

def isQuiet : Event → Bool
  | created .. | published .. | evicted .. | took .. | cleared _ => false
  | _ => true

theorem isQuiet_eq_true : e.isQuiet = true ↔
    e.created? = none ∧ e.published? = none ∧ e.departed? = none := by
  cases e <;> simp [isQuiet, created?, published?, departed?, reaped?, taken?]

theorem departed?_eq_some : e.departed? = some t ↔ e.reaped? = some t ∨ e.taken? = some t := by
  cases e <;> simp [departed?, reaped?, taken?]

theorem taken?_eq_some : e.taken? = some t ↔ ∃ c, e = took c t := by
  cases e <;> simp [taken?]

theorem created?_eq_some : e.created? = some t ↔ ∃ c, e = created c t := by
  cases e <;> simp [created?]

end Event

def Phase.built? : Phase → Option TransportId
  | publishing t => some t
  | _ => none

def State.built? (s : State) : Option TransportId :=
  s.holder.bind fun c => (s.calls c).built?

theorem LockInv.built?_of_hasLock (inv : LockInv s) (phase : s.calls c = p)
    (lock : p.hasLock = true) : s.built? = p.built? := by
  subst phase
  simp [State.built?, (inv.holder c).2 lock]

theorem LockInv.built?_eq_some (inv : LockInv s) (phase : s.calls c = .publishing t) :
    s.built? = some t :=
  inv.built?_of_hasLock phase rfl

theorem State.built?_eq_none (free : s.holder = none) : s.built? = none := by
  simp [built?, free]

theorem State.built?_move (phase : s.calls c = p) (same : q.built? = p.built?) :
    (s.move c q).built? = s.built? := by
  unfold built?
  rw [move_holder]
  congr 1
  funext c'
  by_cases h : c' = c
  · subst h
    rw [move_calls_self, same, phase]
  · rw [move_calls_ne h]

theorem LockInv.built?_release (inv : LockInv (s.release c q).1) :
    (s.release c q).1.built? = none := by
  cases head : s.queue.head? with
  | none => exact State.built?_eq_none (by rw [State.release_holder, head])
  | some next =>
      have phase : (s.release c q).1.calls next = .locked ((s.move c q).calls next).goal := by
        rw [State.release_calls, if_pos head]
      exact inv.built?_of_hasLock phase rfl

theorem Alone.built?_eq (h : Alone g c a p q es) : q.built? = p.built? := by
  cases h <;> rfl

theorem Leaving.built?_eq (h : Leaving c p q es) : p.built? = none ∧ q.built? = none := by
  cases h <;> exact ⟨rfl, rfl⟩

theorem Alone.quiet (h : Alone g c a p q es) : ∀ e ∈ es, e.isQuiet = true := by
  cases h <;> simp [Event.isQuiet]

theorem Leaving.quiet (h : Leaving c p q es) : ∀ e ∈ (s.release c q).2 ++ es, e.isQuiet = true := by
  intro e mem
  rcases h.shown mem with ⟨next, rfl⟩ | ⟨r, rfl⟩ <;> rfl

/-- The transports that were made, published and removed, against those that there are. -/
structure Ledger (s : State) (es : List Event) : Prop where
  created : es.filterMap Event.created? = List.range s.transports.length
  published : es.filterMap Event.published? ++ s.built?.toList = List.range s.transports.length
  departed : es.filterMap Event.departed? ++ s.slot.toList ++ s.built?.toList =
    List.range s.transports.length

theorem ledger_start : Ledger .start [] := by
  constructor <;> rfl

theorem Ledger.quiet (ledger : Ledger s es) (quiet : ∀ e ∈ fs, e.isQuiet = true)
    (slot : s'.slot = s.slot) (built : s'.built? = s.built?)
    (count : s'.transports.length = s.transports.length) : Ledger s' (es ++ fs) := by
  simp only [Event.isQuiet_eq_true] at quiet
  have created : fs.filterMap Event.created? = [] :=
    List.filterMap_eq_nil_iff.2 fun e mem => (quiet e mem).1
  have published : fs.filterMap Event.published? = [] :=
    List.filterMap_eq_nil_iff.2 fun e mem => (quiet e mem).2.1
  have departed : fs.filterMap Event.departed? = [] :=
    List.filterMap_eq_nil_iff.2 fun e mem => (quiet e mem).2.2
  constructor
  · rw [List.filterMap_append, created, List.append_nil, count]
    exact ledger.created
  · rw [List.filterMap_append, published, List.append_nil, built, count]
    exact ledger.published
  · rw [List.filterMap_append, departed, List.append_nil, slot, built, count]
    exact ledger.departed

theorem Ledger.depart (ledger : Ledger s es) (old : s.slot = some t)
    (created : e.created? = none) (published : e.published? = none)
    (departed : e.departed? = some t) (slot : s'.slot = none) (built : s'.built? = s.built?)
    (count : s'.transports.length = s.transports.length) : Ledger s' (es ++ [e]) := by
  constructor
  · simpa [List.filterMap_append, created, count] using ledger.created
  · simpa [List.filterMap_append, published, count, built] using ledger.published
  · simpa [List.filterMap_append, departed, count, slot, built, old] using ledger.departed

theorem Ledger.create (ledger : Ledger s es) (inv : LockInv s) (inv' : LockInv s')
    (phase : s.calls c = .shaking) (phase' : s'.calls c = .publishing s.transports.length)
    (slot : s'.slot = s.slot) (count : s'.transports.length = s.transports.length + 1) :
    Ledger s' (es ++ [.created c s.transports.length]) := by
  have built : s.built? = none := inv.built?_of_hasLock phase rfl
  have built' : s'.built? = some s.transports.length := inv'.built?_eq_some phase'
  constructor
  · simp [List.filterMap_append, Event.created?, ledger.created, count, List.range_succ]
  · have published := ledger.published
    simp only [built, Option.toList_none, List.append_nil] at published
    simp [List.filterMap_append, Event.published?, published, built', count, List.range_succ]
  · have departed := ledger.departed
    simp only [built, Option.toList_none, List.append_nil] at departed
    simp [List.filterMap_append, Event.departed?, Event.reaped?, Event.taken?,
      departed, slot, built', count, List.range_succ]

theorem Ledger.publish (ledger : Ledger s es) (inv : LockInv s) (inv' : LockInv s')
    (phase : s.calls c = .publishing t) (phase' : s'.calls c = .watching t)
    (slot : s'.slot = some t) (count : s'.transports.length = s.transports.length) :
    Ledger s' (es ++ [.published c t]) := by
  have empty : s.slot = none := inv.vacant c (by rw [phase]; rfl)
  have built : s.built? = some t := inv.built?_eq_some phase
  have built' : s'.built? = none := inv'.built?_of_hasLock phase' rfl
  constructor
  · simp [List.filterMap_append, Event.created?, count, ledger.created]
  · simpa [List.filterMap_append, Event.published?, count, built, built'] using ledger.published
  · simpa [List.filterMap_append, Event.departed?, Event.reaped?, Event.taken?, count, slot, empty,
      built, built'] using ledger.departed

theorem Ledger.step (ledger : Ledger s es) (inv : LockInv s) (inv' : LockInv s')
    (h : Transition g s a s' fs) : Ledger s' (es ++ fs) := by
  cases h with
  | alone own phase =>
      exact ledger.quiet own.quiet rfl (State.built?_move phase own.built?_eq) rfl
  | hit phase =>
      exact ledger.quiet (by simp [Event.isQuiet]) rfl (State.built?_move phase rfl) rfl
  | miss phase => exact ledger.quiet (by simp) rfl (State.built?_move phase rfl) rfl
  | lock phase free =>
      have built := State.built?_eq_none free
      have built' := inv'.built?_of_hasLock (State.move_calls_self ..) rfl
      exact ledger.quiet (by simp) rfl (by rw [built, built']; rfl) rfl
  | @wait c goal phase busy =>
      exact ledger.quiet (by simp) rfl
        (State.built?_move (s := { s with queue := s.queue ++ [c] }) phase rfl) rfl
  | reuse phase => exact ledger.quiet (by simp) rfl (State.built?_move phase rfl) rfl
  | vacant phase => exact ledger.quiet (by simp) rfl (State.built?_move phase rfl) rfl
  | evict phase slot =>
      exact ledger.depart slot rfl rfl rfl rfl
        (State.built?_move (s := { s with slot := none }) phase rfl) rfl
  | takeNothing phase => exact ledger.quiet (by simp) rfl (State.built?_move phase rfl) rfl
  | take phase slot =>
      exact ledger.depart slot rfl rfl rfl rfl
        (State.built?_move (s := { s with slot := none }) phase rfl) rfl
  | create phase =>
      exact ledger.create inv inv' phase (State.move_calls_self ..) rfl (by simp)
  | publish phase => exact ledger.publish inv inv' phase (State.move_calls_self ..) rfl rfl
  | @watch c t phase =>
      exact ledger.quiet (by simp [Event.isQuiet]) rfl
        (State.built?_move (s := s.change t fun x => { x with watch := .running }) phase rfl)
        (by simp)
  | leave own phase =>
      refine ledger.quiet own.quiet State.release_slot ?_ (by rw [State.release_transports])
      rw [inv.built?_of_hasLock phase own.hasLock_eq.1, own.built?_eq.1]
      exact inv'.built?_release
  | die => exact ledger.quiet (by simp [Event.isQuiet]) rfl rfl (by simp)
  | clear ended slot => exact ledger.depart slot rfl rfl rfl rfl rfl (by simp)
  | pass => exact ledger.quiet (by simp) rfl rfl (by simp)

theorem ledger_of_reached (reached : Reached g as s es) : Ledger s es := by
  induction reached with
  | refl => exact ledger_start
  | snoc before moved ih =>
      exact ih.step (lockInv_of_reached before) (lockInv_of_reached (before.snoc moved))
        (.of_step moved)

theorem Ledger.slot_lt (ledger : Ledger s es) (slot : s.slot = some t) :
    t < s.transports.length := by
  rw [← List.mem_range, ← ledger.departed]
  simp [slot]

theorem Ledger.built_lt (ledger : Ledger s es) (built : s.built? = some t) :
    t < s.transports.length := by
  rw [← List.mem_range, ← ledger.departed]
  simp [built]

end GatewayTunnel.Manager
