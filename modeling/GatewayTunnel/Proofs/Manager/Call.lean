import GatewayTunnel.Proofs.Manager.Lock

namespace GatewayTunnel.Manager

variable {g : Gateway} {s s' : State} {a : Action} {as : List Action} {es fs : List Event}
  {c c' : CallId} {t : TransportId} {p q : Phase} {r : Reply}

namespace Event

def caller? : Event → Option CallId
  | dialStarted c _ | pauseStarted c _ | shakeStarted c | created c _ | published c _ | watched c _
  | evicted c _ | took c _ | closeStarted c _ | handed c | returned c _ => some c
  | ended _ | cleared _ => none

def isOf (c : CallId) (e : Event) : Bool :=
  e.caller? = some c

end Event

def Action.caller? : Action → Option CallId
  | arrive c _ | proceed c | dialEnded c _ | pauseEnded c | shakeEnded c _ | closeEnded c _ => some c
  | die _ | notice _ => none

/-- What a step of the manager is for one call. -/
inductive Turn (g : Gateway) (c : CallId) : Action → Phase → Phase → List Event → Prop where
  | alone {a : Action} {p q : Phase} {es : List Event} : Alone g c a p q es → Turn g c a p q es
  | hit (t : TransportId) :
      Turn g c (.proceed c) .entered (.done (.acquired t)) [.returned c (.acquired t)]
  | miss : Turn g c (.proceed c) .entered (.asking .acquire) []
  | lock (goal : Goal) : Turn g c (.proceed c) (.asking goal) (.locked goal) []
  | wait (goal : Goal) : Turn g c (.proceed c) (.asking goal) (.waiting goal) []
  | handed {c' : CallId} (goal : Goal) :
      c ≠ c' → Turn g c (.proceed c') (.waiting goal) (.locked goal) [.handed c]
  | reuse (t : TransportId) :
      Turn g c (.proceed c) (.locked .acquire) (.leaving (.acquired t)) []
  | vacate (old : Option TransportId) :
      Turn g c (.proceed c) (.locked .acquire) (.ready .start) (old.toList.map (.evicted c))
  | take (old : Option TransportId) :
      Turn g c (.proceed c) (.locked .close) (.taken old) (old.toList.map (.took c))
  | create (t : TransportId) :
      Turn g c (.shakeEnded c (.ok ())) .shaking (.publishing t) [.created c t]
  | publish (t : TransportId) :
      Turn g c (.proceed c) (.publishing t) (.watching t) [.published c t]
  | watch (t : TransportId) :
      Turn g c (.proceed c) (.watching t) (.leaving (.acquired t)) [.watched c t]
  | leave {p q : Phase} {es : List Event} : Leaving c p q es → Turn g c (.proceed c) p q es

theorem Alone.isOf (h : Alone g c a p q es) : ∀ e ∈ es, e.caller? = some c := by
  cases h <;> simp [Event.caller?]

theorem Alone.caller?_eq (h : Alone g c a p q es) : a.caller? = some c := by
  cases h <;> rfl

theorem Leaving.isOf (h : Leaving c p q es) : ∀ e ∈ es, e.caller? = some c := by
  cases h <;> simp [Event.caller?]

theorem filter_isOf_self (own : ∀ e ∈ es, e.caller? = some c) : es.filter (·.isOf c) = es := by
  rw [List.filter_eq_self]
  intro e mem
  simp [Event.isOf, own e mem]

theorem filter_isOf_ne (own : ∀ e ∈ es, e.caller? = some c') (other : c ≠ c') :
    es.filter (·.isOf c) = [] := by
  rw [List.filter_eq_nil_iff]
  intro e mem
  simp [Event.isOf, own e mem, Ne.symm other]

theorem mem_filter_isOf {e : Event} (mem : e ∈ es) (own : e.caller? = some c) :
    e ∈ es.filter (·.isOf c) :=
  List.mem_filter.2 ⟨mem, by simp [Event.isOf, own]⟩

theorem turn_move {s₁ : State} (calls : s₁.calls = s.calls) (phase : s.calls c' = p)
    (caller : a.caller? = some c') (own : ∀ e ∈ es, e.caller? = some c') (turn : Turn g c' a p q es)
    (c : CallId) :
    ((s₁.move c' q).calls c = s.calls c ∧ es.filter (·.isOf c) = [] ∧ a.caller? ≠ some c) ∨
      Turn g c a (s.calls c) ((s₁.move c' q).calls c) (es.filter (·.isOf c)) := by
  by_cases h : c = c'
  · subst h
    right
    rw [State.move_calls_self, filter_isOf_self own, phase]
    exact turn
  · left
    rw [State.move_calls_ne h, calls]
    refine ⟨rfl, filter_isOf_ne own h, ?_⟩
    rw [caller]
    exact fun same => h (Option.some.inj same).symm

theorem LockInv.turn_release (inv : LockInv s) (own : Leaving c' p q es) (phase : s.calls c' = p)
    (c : CallId) :
    ((s.release c' q).1.calls c = s.calls c ∧
        ((s.release c' q).2 ++ es).filter (·.isOf c) = [] ∧ (Action.proceed c').caller? ≠ some c) ∨
      Turn g c (.proceed c') (s.calls c) ((s.release c' q).1.calls c)
        (((s.release c' q).2 ++ es).filter (·.isOf c)) := by
  have lock : (s.calls c').hasLock = true := by rw [phase]; exact own.hasLock_eq.1
  rw [State.release_calls, State.release_shown, List.filter_append]
  by_cases head : s.queue.head? = some c
  · -- the lock goes to the call that is looked at, which had been waiting for it
    have other : c ≠ c' := inv.head_ne lock head
    have queued := (inv.queue c).1 (List.mem_of_head? head)
    right
    rw [if_pos head, State.move_calls_ne other, filter_isOf_ne own.isOf other, head]
    cases waits : s.calls c <;> simp [waits, Phase.queued] at queued
    simpa [Event.isOf, Event.caller?, Phase.goal] using Turn.handed _ other
  · have unseen : (s.queue.head?.toList.map Event.handed).filter (·.isOf c) = [] := by
      cases first : s.queue.head? with
      | none => rfl
      | some next =>
          have ne : next ≠ c := fun same => head (by rw [first, same])
          simp [Event.isOf, Event.caller?, ne]
    rw [if_neg head, unseen, List.nil_append]
    exact turn_move rfl phase rfl own.isOf (.leave own) c

/-- A step of the manager leaves a call where it is, or is a turn of it. -/
theorem Transition.turn (inv : LockInv s) (h : Transition g s a s' es) (c : CallId) :
    (s'.calls c = s.calls c ∧ es.filter (·.isOf c) = [] ∧ a.caller? ≠ some c) ∨
      Turn g c a (s.calls c) (s'.calls c) (es.filter (·.isOf c)) := by
  cases h with
  | alone own phase => exact turn_move rfl phase own.caller?_eq own.isOf (.alone own) c
  | hit phase => exact turn_move rfl phase rfl (by simp [Event.caller?]) (.hit _) c
  | miss phase => exact turn_move rfl phase rfl (by simp) .miss c
  | lock phase => exact turn_move rfl phase rfl (by simp) (.lock _) c
  | wait phase => exact turn_move rfl phase rfl (by simp) (.wait _) c
  | reuse phase => exact turn_move rfl phase rfl (by simp) (.reuse _) c
  | vacant phase => exact turn_move rfl phase rfl (by simp) (.vacate none) c
  | evict phase =>
      exact turn_move rfl phase rfl (by simp [Event.caller?]) (.vacate (some _)) c
  | takeNothing phase => exact turn_move rfl phase rfl (by simp) (.take none) c
  | take phase =>
      exact turn_move rfl phase rfl (by simp [Event.caller?]) (.take (some _)) c
  | create phase => exact turn_move rfl phase rfl (by simp [Event.caller?]) (.create _) c
  | publish phase =>
      exact turn_move rfl phase rfl (by simp [Event.caller?]) (.publish _) c
  | watch phase => exact turn_move rfl phase rfl (by simp [Event.caller?]) (.watch _) c
  | leave own phase => exact inv.turn_release own phase c
  | die => exact .inl ⟨rfl, rfl, nofun⟩
  | clear => exact .inl ⟨rfl, rfl, nofun⟩
  | pass => exact .inl ⟨rfl, rfl, nofun⟩

theorem Transition.keeps {P : Phase → Prop} (inv : LockInv s) (h : Transition g s a s' es)
    (keeps : ∀ {p q fs}, Turn g c a p q fs → P p → P q) (holds : P (s.calls c)) :
    P (s'.calls c) := by
  rcases h.turn inv c with ⟨same, -, -⟩ | turn
  · rw [same]
    exact holds
  · exact keeps turn holds

theorem Transition.turn_of_mem (inv : LockInv s) (h : Transition g s a s' es) {e : Event}
    (mem : e ∈ es) (own : e.caller? = some c) :
    Turn g c a (s.calls c) (s'.calls c) (es.filter (·.isOf c)) := by
  rcases h.turn inv c with ⟨-, none, -⟩ | turn
  · have seen := mem_filter_isOf mem own
    simp [none] at seen
  · exact turn

theorem Turn.published (turn : Turn g c a p q es) (mem : .published c t ∈ es) :
    p = .publishing t ∧ q = .watching t := by
  cases turn with
  | alone own => cases own <;> simp_all
  | leave own => cases own <;> simp_all
  | vacate old => cases old <;> simp_all
  | take old => cases old <;> simp_all
  | _ => simp_all

theorem Transition.published (inv : LockInv s) (h : Transition g s a s' es)
    (mem : .published c t ∈ es) : s.calls c = .publishing t ∧ s'.calls c = .watching t :=
  (h.turn_of_mem inv mem rfl).published (mem_filter_isOf mem rfl)

/-- The place that a call has come to, and the events that it has shown on the way. -/
inductive Life (g : Gateway) (c : CallId) : Phase → List Event → Prop where
  | absent : Life g c .absent []
  | turn {p q : Phase} {es fs : List Event} {a : Action} :
      Life g c p es → Turn g c a p q fs → Life g c q (es ++ fs)

theorem life_of_reached (reached : Reached g as s es) (c : CallId) :
    Life g c (s.calls c) (es.filter (·.isOf c)) := by
  induction reached with
  | refl => exact .absent
  | snoc before moved ih =>
      rw [List.filter_append]
      rcases (Transition.of_step moved).turn (lockInv_of_reached before) c with ⟨same, none, -⟩ | turn
      · rw [same, none, List.append_nil]
        exact ih
      · exact ih.turn turn

theorem Life.done_of_returned (life : Life g c p es) (shown : .returned c r ∈ es) : p = .done r := by
  induction life with
  | absent => cases shown
  | turn before turn ih =>
      rcases List.mem_append.1 shown with old | new
      · rw [ih old] at turn
        cases turn with
        | alone own => cases own
        | leave own => cases own
      · cases turn with
        | alone own => cases own <;> simp_all
        | leave own => cases own <;> simp_all
        | vacate old => cases old <;> simp_all
        | take old => cases old <;> simp_all
        | _ => simp_all

theorem Life.returned_of_done (life : Life g c (.done r) es) : .returned c r ∈ es := by
  cases life with
  | turn before turn =>
      cases turn with
      | alone own => cases own; simp
      | hit => simp
      | leave own => cases own <;> simp

theorem returned_iff_of_reached (reached : Reached g as s es) :
    .returned c r ∈ es ↔ s.calls c = .done r := by
  have life := life_of_reached reached c
  constructor
  · intro shown
    exact life.done_of_returned (mem_filter_isOf shown rfl)
  · intro done
    rw [done] at life
    exact (List.mem_filter.1 life.returned_of_done).1

def Phase.isOver : Phase → Bool
  | absent | done _ => true
  | _ => false

theorem Turn.not_done : ¬ Turn g c a (.done r) q fs := by
  intro turn
  cases turn with
  | alone own => cases own
  | leave own => cases own

end GatewayTunnel.Manager
