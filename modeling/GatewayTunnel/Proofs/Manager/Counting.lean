import GatewayTunnel.Proofs.Manager.Creation
import GatewayTunnel.Proofs.Manager.Ending
import Mathlib.Data.List.Induction
import Mathlib.Data.List.Perm.Subperm

namespace GatewayTunnel.Manager

variable {g : Gateway} {s s' : State} {a : Action} {as : List Action} {es fs : List Event}
  {c : CallId} {t : TransportId} {p q : Phase} {w w' : Option Phase}

namespace Event

def dials : Event → Bool
  | dialStarted .. => true
  | _ => false

def shakes : Event → Bool
  | shakeStarted _ => true
  | _ => false

def takes : Event → Bool
  | took .. => true
  | _ => false

end Event

namespace Action

def failsDial : Action → Bool
  | dialEnded _ (.error _) => true
  | _ => false

def failsShake : Action → Bool
  | shakeEnded _ (.error _) => true
  | _ => false

end Action

namespace Phase

def isDialing : Phase → Bool
  | dialing _ | dialed => true
  | _ => false

def isShaking : Phase → Bool
  | shaking => true
  | _ => false

end Phase

/-! ## The work of the holder -/

def State.work? (s : State) : Option Phase :=
  s.holder.map s.calls

theorem LockInv.work?_eq (inv : LockInv s) (phase : s.calls c = p) (lock : p.hasLock = true) :
    s.work? = some p := by
  subst phase
  simp [State.work?, (inv.holder c).2 lock]

theorem LockInv.work?_move (inv : LockInv s) (phase : s.calls c = p) (lock : p.hasLock = false) :
    (s.move c q).work? = s.work? := by
  unfold State.work?
  rw [State.move_holder]
  cases holder : s.holder with
  | none => rfl
  | some c' =>
      have held := (inv.holder c').1 holder
      have other : c' ≠ c := by
        rintro rfl
        simp [phase, lock] at held
      simp [State.move_calls_ne other]

theorem State.work?_release : (s.release c q).1.work?.any Phase.building = false := by
  unfold work?
  rw [release_holder]
  cases head : s.queue.head? with
  | none => rfl
  | some next => simp [release_calls, head, Phase.building]

inductive Shift (g : Gateway) : Action → Option Phase → Option Phase → List Event → Prop where
  | rest {a : Action} {w : Option Phase} {es : List Event} :
      (∀ e ∈ es, e.builds = false) → a.failsDial = false → a.failsShake = false → Shift g a w w es
  | turn {c : CallId} {a : Action} {p q : Phase} {es : List Event} :
      Turn g c a p q es → p.hasLock = true → Shift g a (some p) (some q) es
  | pass {c : CallId} {w w' : Option Phase} {es : List Event} :
      (∀ e ∈ es, e.builds = false) → w.any Phase.building = false →
      w'.any Phase.building = false → Shift g (.proceed c) w w' es

theorem LockInv.shift (inv : LockInv s) (inv' : LockInv s') (turn : Turn g c a p q es)
    (phase : s.calls c = p) (phase' : s'.calls c = q) (lock : p.hasLock = true)
    (lock' : q.hasLock = true) : Shift g a s.work? s'.work? es := by
  rw [inv.work?_eq phase lock, inv'.work?_eq phase' lock']
  exact .turn turn lock

theorem Alone.shift (h : Alone g c a p q es) (lock : p.hasLock = false) : Shift g a w w es := by
  cases h with
  | enter => exact .rest (by simp) rfl rfl
  | approach => exact .rest (by simp) rfl rfl
  | disconnect => exact .rest (by simp [Event.builds]) rfl rfl
  | disconnected => exact .rest (by simp [Event.builds]) rfl rfl
  | _ => cases lock

theorem Leaving.builds (h : Leaving c p q es) :
    ∀ e ∈ (s.release c q).2 ++ es, e.builds = false := by
  intro e mem
  rcases h.shown mem with ⟨next, rfl⟩ | ⟨r, rfl⟩ <;> rfl

theorem Leaving.building (h : Leaving c p q es) : p.building = false := by
  cases h <;> rfl

theorem Transition.shift (inv : LockInv s) (inv' : LockInv s') (h : Transition g s a s' es) :
    Shift g a s.work? s'.work? es := by
  cases h with
  | @alone c a p q es own phase =>
      cases lock : p.hasLock with
      | true =>
          have lock' : q.hasLock = true := by rw [own.hasLock_eq, lock]
          exact inv.shift inv' (.alone own) phase State.move_calls_self lock lock'
      | false =>
          rw [inv.work?_move phase lock]
          exact own.shift lock
  | hit phase =>
      rw [inv.work?_move phase rfl]
      exact .rest (by simp [Event.builds]) rfl rfl
  | miss phase =>
      rw [inv.work?_move phase rfl]
      exact .rest (by simp) rfl rfl
  | lock phase free =>
      refine .pass (by simp) (by simp [State.work?, free]) ?_
      rw [inv'.work?_eq State.move_calls_self rfl]
      rfl
  | @wait c goal phase busy =>
      have same : ({ s with queue := s.queue ++ [c] }.move c (.waiting goal)).work? = s.work? :=
        inv.work?_move phase rfl
      rw [same]
      exact .rest (by simp) rfl rfl
  | reuse phase => exact inv.shift inv' (.reuse _) phase State.move_calls_self rfl rfl
  | vacant phase => exact inv.shift inv' (.vacate none) phase State.move_calls_self rfl rfl
  | evict phase => exact inv.shift inv' (.vacate (some _)) phase State.move_calls_self rfl rfl
  | takeNothing phase => exact inv.shift inv' (.take none) phase State.move_calls_self rfl rfl
  | take phase => exact inv.shift inv' (.take (some _)) phase State.move_calls_self rfl rfl
  | create phase => exact inv.shift inv' (.create _) phase State.move_calls_self rfl rfl
  | publish phase => exact inv.shift inv' (.publish _) phase State.move_calls_self rfl rfl
  | watch phase => exact inv.shift inv' (.watch _) phase State.move_calls_self rfl rfl
  | leave own phase =>
      refine .pass own.builds ?_ State.work?_release
      rw [inv.work?_eq phase own.hasLock_eq.1]
      exact own.building
  | die => exact .rest (by simp [Event.builds]) rfl rfl
  | clear => exact .rest (by simp [Event.builds]) rfl rfl
  | pass => exact .rest (by simp) rfl rfl

/-! ## Dials and handshakes -/

/-- What one kind of event begins, another kind of event or an action ends, and a call is at a certain
place in between. -/
structure Balance (g : Gateway) (begins ends : Event → Bool) (fails : Action → Bool)
    (between : Phase → Bool) : Prop where
  begins_builds : ∀ e, begins e = true → e.builds = true
  ends_builds : ∀ e, ends e = true → e.builds = true
  fails_of : ∀ a, fails a = true → a.failsDial = true ∨ a.failsShake = true
  building : ∀ p, between p = true → p.building = true
  turn : ∀ c a p q es, Turn g c a p q es → p.hasLock = true →
    es.countP begins + (between p).toNat = es.countP ends + (fails a).toNat + (between q).toNat

section

variable {x y : Event → Bool} {k : Action → Bool} {f : Phase → Bool}

theorem countP_of_builds (quiet : ∀ e ∈ es, e.builds = false)
    (loud : ∀ e, x e = true → e.builds = true) : es.countP x = 0 := by
  rw [List.countP_eq_zero]
  intro e mem shown
  have builds := loud e shown
  rw [quiet e mem] at builds
  cases builds

theorem any_of_building (idle : w.any Phase.building = false)
    (busy : ∀ p, f p = true → p.building = true) : w.any f = false := by
  cases w with
  | none => rfl
  | some p =>
      rw [Option.any_some, Bool.eq_false_iff] at idle ⊢
      exact fun between => idle (busy p between)

theorem Balance.shift (balance : Balance g x y k f) (h : Shift g a w w' es) :
    es.countP x + (w.any f).toNat = es.countP y + (k a).toNat + (w'.any f).toNat := by
  cases h with
  | rest quiet dial shake =>
      have calm : k a = false := by
        rw [Bool.eq_false_iff]
        intro fails
        rcases balance.fails_of a fails with failed | failed
        · rw [dial] at failed
          cases failed
        · rw [shake] at failed
          cases failed
      rw [countP_of_builds quiet balance.begins_builds, countP_of_builds quiet balance.ends_builds,
        calm]
      rfl
  | turn turn lock => exact balance.turn _ _ _ _ _ turn lock
  | @pass c _ _ _ quiet idle idle' =>
      have calm : k (.proceed c) = false := by
        rw [Bool.eq_false_iff]
        intro fails
        rcases balance.fails_of _ fails with failed | failed <;> cases failed
      rw [countP_of_builds quiet balance.begins_builds, countP_of_builds quiet balance.ends_builds,
        any_of_building idle balance.building, any_of_building idle' balance.building, calm]
      rfl

theorem Balance.countP (balance : Balance g x y k f) (reached : Reached g as s es) :
    es.countP x = es.countP y + as.countP k + (s.work?.any f).toNat := by
  induction reached with
  | refl => rfl
  | @snoc as s es a s' fs before moved ih =>
      have step := balance.shift ((Transition.of_step moved).shift (lockInv_of_reached before)
        (lockInv_of_reached (before.snoc moved)))
      have last : [a].countP k = (k a).toNat := by cases h : k a <;> simp [h]
      rw [List.countP_append, List.countP_append, List.countP_append, last]
      omega

end

theorem dial_balance :
    Balance g Event.dials Event.shakes Action.failsDial Phase.isDialing where
  begins_builds e begins := by cases e <;> simp_all [Event.dials, Event.builds]
  ends_builds e ends := by cases e <;> simp_all [Event.shakes, Event.builds]
  fails_of a fails := .inl fails
  building p between := by cases p <;> simp_all [Phase.isDialing, Phase.building]
  turn c a p q es turn lock := by
    cases turn with
    | alone own =>
        cases own <;>
          simp_all [Phase.isDialing, Event.dials, Event.shakes, Action.failsDial, Phase.hasLock]
    | leave own =>
        cases own <;> simp_all [Phase.isDialing, Event.dials, Event.shakes, Action.failsDial]
    | vacate old =>
        cases old <;> simp_all [Phase.isDialing, Event.dials, Event.shakes, Action.failsDial]
    | take old =>
        cases old <;> simp_all [Phase.isDialing, Event.dials, Event.shakes, Action.failsDial]
    | _ => simp_all [Phase.isDialing, Event.dials, Event.shakes, Action.failsDial, Phase.hasLock]

theorem shake_balance :
    Balance g Event.shakes (·.created?.isSome) Action.failsShake Phase.isShaking where
  begins_builds e begins := by cases e <;> simp_all [Event.shakes, Event.builds]
  ends_builds e ends := by cases e <;> simp_all [Event.created?, Event.builds]
  fails_of a fails := .inr fails
  building p between := by cases p <;> simp_all [Phase.isShaking, Phase.building]
  turn c a p q es turn lock := by
    cases turn with
    | alone own =>
        cases own <;>
          simp_all [Phase.isShaking, Event.shakes, Event.created?, Action.failsShake, Phase.hasLock]
    | leave own =>
        cases own <;> simp_all [Phase.isShaking, Event.shakes, Event.created?, Action.failsShake]
    | vacate old =>
        cases old <;> simp_all [Phase.isShaking, Event.shakes, Event.created?, Action.failsShake]
    | take old =>
        cases old <;> simp_all [Phase.isShaking, Event.shakes, Event.created?, Action.failsShake]
    | _ =>
        simp_all [Phase.isShaking, Event.shakes, Event.created?, Action.failsShake, Phase.hasLock]

theorem dials_count (reached : Reached g as s es) :
    es.countP Event.dials =
      es.countP Event.shakes + as.countP Action.failsDial + (s.work?.any Phase.isDialing).toNat :=
  dial_balance.countP reached

theorem shakes_count (reached : Reached g as s es) :
    es.countP Event.shakes =
      s.transports.length + as.countP Action.failsShake + (s.work?.any Phase.isShaking).toNat := by
  rw [shake_balance.countP reached, ← List.length_filterMap_eq_countP,
    (ledger_of_reached reached).created, List.length_range]

/-! ## Transports -/

theorem filterMap_sublist {α β : Type} {f f' : α → Option β} {l : List α}
    (le : ∀ x b, f x = some b → f' x = some b) : (l.filterMap f).Sublist (l.filterMap f') := by
  induction l with
  | nil => exact .slnil
  | cons x l ih =>
      cases fx : f x with
      | some b =>
          rw [List.filterMap_cons_some fx, List.filterMap_cons_some (le x b fx)]
          exact ih.cons_cons b
      | none =>
          rw [List.filterMap_cons_none fx]
          cases fx' : f' x with
          | some b =>
              rw [List.filterMap_cons_some fx']
              exact ih.cons b
          | none =>
              rw [List.filterMap_cons_none fx']
              exact ih

theorem countP_eq_filter_range {α : Type} {f : α → Bool} (l : List α) :
    l.countP f = ((List.range l.length).filter fun i => l[i]?.any f).length := by
  induction l using List.reverseRecOn with
  | nil => rfl
  | append_singleton l x ih =>
      have below : (List.range l.length).filter (fun i => (l ++ [x])[i]?.any f) =
          (List.range l.length).filter fun i => l[i]?.any f := by
        refine List.filter_congr fun i mem => ?_
        rw [List.getElem?_append_left (List.mem_range.1 mem)]
      rw [List.length_append, List.length_singleton, List.range_succ, List.filter_append,
        List.length_append, below, ← ih, List.countP_append]
      cases h : f x <;> simp [h]

theorem length_departed : (es.filterMap Event.departed?).length =
    (es.filterMap Event.reaped?).length + es.countP Event.takes := by
  induction es with
  | nil => rfl
  | cons e es ih =>
      cases e <;> simp [List.filterMap_cons, List.countP_cons, Event.departed?, Event.reaped?,
        Event.taken?, Event.takes, ih] <;> omega

theorem length_reaped_le (reached : Reached g as s es) :
    (es.filterMap Event.reaped?).length ≤ s.transports.countP (·.ended) := by
  have ledger := ledger_of_reached reached
  have departed : (es.filterMap Event.reaped?).Sublist (es.filterMap Event.departed?) :=
    filterMap_sublist fun e t reaped => Event.departed?_eq_some.2 (.inl reaped)
  have kept : (es.filterMap Event.departed?).Sublist
      (es.filterMap Event.departed? ++ s.slot.toList ++ s.built?.toList) :=
    (List.sublist_append_left _ _).trans (List.sublist_append_left _ _)
  have made := departed.trans kept
  rw [ledger.departed] at made
  rw [countP_eq_filter_range]
  apply List.Subperm.length_le
  apply List.subperm_of_subset (made.nodup List.nodup_range)
  intro t mem
  obtain ⟨e, shown, reaped⟩ := List.mem_filterMap.1 mem
  obtain ⟨l₁, l₂, rfl⟩ := List.append_of_mem shown
  have ended : s.hasEnded t = true :=
    (hasEnded_iff_of_reached reached).2 (List.mem_append_left _ (ended_before_reaped reached reaped))
  exact List.mem_filter.2 ⟨made.subset mem, ended⟩

/-- The slot is full, or a transport waits to be put there, or one is made, or none of these. -/
theorem LockInv.one_at_most (inv : LockInv s) :
    s.slot.toList.length + s.built?.toList.length + (s.work?.any Phase.isShaking).toNat +
      (s.work?.any Phase.isDialing).toNat ≤ 1 := by
  cases holder : s.holder with
  | none => cases s.slot <;> simp [State.built?, State.work?, holder]
  | some c =>
      have lock := (inv.holder c).1 holder
      have vacant := inv.vacant c
      rw [inv.built?_of_hasLock rfl lock, inv.work?_eq rfl lock]
      cases phase : s.calls c <;> rw [phase] at vacant <;>
        simp_all [Phase.emptied, Phase.built?, Phase.isShaking, Phase.isDialing, Phase.hasLock]

/-- All transports but one have ended or were taken, and that one is not there while another one is on
its way. -/
theorem length_transports_le (reached : Reached g as s es) :
    s.transports.length + (s.work?.any Phase.isShaking).toNat +
        (s.work?.any Phase.isDialing).toNat ≤
      1 + s.transports.countP (·.ended) + es.countP Event.takes := by
  have places := congrArg List.length (ledger_of_reached reached).departed
  rw [List.length_append, List.length_append, List.length_range, length_departed] at places
  have reaped := length_reaped_le reached
  have one := (lockInv_of_reached reached).one_at_most
  omega

theorem shakes_le (reached : Reached g as s es) :
    es.countP Event.shakes ≤
      1 + s.transports.countP (·.ended) + es.countP Event.takes + as.countP Action.failsShake := by
  have shakes := shakes_count reached
  have transports := length_transports_le reached
  omega

theorem dials_le (reached : Reached g as s es) :
    es.countP Event.dials ≤ 1 + s.transports.countP (·.ended) + es.countP Event.takes +
      as.countP Action.failsShake + as.countP Action.failsDial := by
  have dials := dials_count reached
  have shakes := shakes_count reached
  have transports := length_transports_le reached
  omega

end GatewayTunnel.Manager
