import GatewayTunnel.Login

namespace GatewayTunnel.Login

variable {i : Identity} {gateway : String} {answers : Nat → Answer} {a : Account} {k : Nat}
  {methods : List AuthMethod} {m : AuthMethod} {r : Except TunnelError Unit} {log : List AuditEvent}
  {tried : List Offer}

/-! ## What is offered, and what is recorded -/

def Event.offer? : Event → Option Offer
  | offered o => some o
  | logged _ => none

def Event.record? : Event → Option AuditEvent
  | offered _ => none
  | logged e => some e

def offers (events : List Event) : List Offer :=
  events.filterMap Event.offer?

def records (events : List Event) : List AuditEvent :=
  events.filterMap Event.record?

def offersOf (i : Identity) : List Offer :=
  if i.methods.isEmpty then [.nothing] else i.methods.map .method

namespace Account

@[simp] theorem offers_attempt (o : Offer) : offers (a.attempt o) = [o] := rfl
@[simp] theorem offers_success (o : Offer) : offers (a.success o) = [] := rfl
@[simp] theorem offers_failure (o : Offer) (reason : String) :
    offers (a.failure o reason) = [] := rfl

@[simp] theorem records_attempt (o : Offer) :
    records (a.attempt o) = [.authAttempt a.gateway a.username o.name] := rfl
@[simp] theorem records_success (o : Offer) :
    records (a.success o) = [.authSuccess a.gateway a.username o.name] := rfl
@[simp] theorem records_failure (o : Offer) (reason : String) :
    records (a.failure o reason) = [.authFailure a.gateway a.username o.name reason] := rfl

def worked (a : Account) (m : AuthMethod) : List AuditEvent :=
  [.authAttempt a.gateway a.username m.name, .authSuccess a.gateway a.username m.name]

def refused (a : Account) (reason : String) (m : AuthMethod) : List AuditEvent :=
  [.authAttempt a.gateway a.username m.name, .authFailure a.gateway a.username m.name reason]

end Account

@[simp] theorem offers_append (es fs : List Event) : offers (es ++ fs) = offers es ++ offers fs :=
  List.filterMap_append

@[simp] theorem records_append (es fs : List Event) :
    records (es ++ fs) = records es ++ records fs :=
  List.filterMap_append

theorem offers_tryNothing (answer : Answer) : offers (a.tryNothing answer).2 = [.nothing] := by
  cases answer <;> rfl

theorem tryNothing_ok_iff (answer : Answer) :
    (a.tryNothing answer).1 = .ok () ↔ answer = .accepted := by
  cases answer <;> simp [Account.tryNothing]

/-! ## The course of the attempts -/

/-- How the attempts with methods go, with what they return, record and offer: all methods up to one were
rejected and that one ended the login, or all of them were rejected. -/
inductive Course (a : Account) (answers : Nat → Answer) :
    List AuthMethod → Except TunnelError Unit → List AuditEvent → List Offer → Prop where
  | accepted (front : List AuthMethod) (m : AuthMethod) (back : List AuthMethod)
      (before : ∀ k < front.length, answers k = .rejected)
      (here : answers front.length = .accepted) :
      Course a answers (front ++ m :: back) (.ok ())
        (front.flatMap (a.refused rejectedReason) ++ a.worked m) ((front ++ [m]).map .method)
  | failed (front : List AuthMethod) (m : AuthMethod) (back : List AuthMethod) (reason : String)
      (before : ∀ k < front.length, answers k = .rejected)
      (here : answers front.length = .failed reason) :
      Course a answers (front ++ m :: back) (.error (.auth reason))
        (front.flatMap (a.refused rejectedReason) ++ a.refused reason m) ((front ++ [m]).map .method)
  | rejected (methods : List AuthMethod) (every : ∀ k < methods.length, answers k = .rejected) :
      Course a answers methods (.error (.auth rejectedReason))
        (methods.flatMap (a.refused rejectedReason)) (methods.map .method)

theorem rejected_cons {n : Nat} (first : answers 0 = .rejected)
    (later : ∀ k < n, answers (k + 1) = .rejected) : ∀ k < n + 1, answers k = .rejected
  | 0, _ => first
  | k + 1, lt => later k (Nat.lt_of_succ_lt_succ lt)

theorem Course.cons (first : answers 0 = .rejected)
    (later : Course a (fun k => answers (k + 1)) methods r log tried) :
    Course a answers (m :: methods) r (a.refused rejectedReason m ++ log) (.method m :: tried) := by
  cases later with
  | accepted front m' back before here =>
      rw [← List.append_assoc, ← List.flatMap_cons]
      exact .accepted (m :: front) m' back (rejected_cons first before) here
  | failed front m' back reason before here =>
      rw [← List.append_assoc, ← List.flatMap_cons]
      exact .failed (m :: front) m' back reason (rejected_cons first before) here
  | rejected _ every =>
      rw [← List.flatMap_cons]
      exact .rejected (m :: methods) (rejected_cons first every)

theorem course_tryMethods : Course a (fun j => answers (k + j)) methods
    (a.tryMethods answers k methods).1 (records (a.tryMethods answers k methods).2)
    (offers (a.tryMethods answers k methods).2) := by
  induction methods generalizing k with
  | nil => exact .rejected [] nofun
  | cons m rest ih =>
      rw [Account.tryMethods_cons]
      cases answer : answers k with
      | accepted => exact .accepted [] m rest nofun answer
      | failed reason => exact .failed [] m rest reason nofun answer
      | rejected =>
          have later : (fun j => answers (k + 1 + j)) = fun j => answers (k + (j + 1)) :=
            funext fun j => congrArg answers (by omega)
          have course := ih (k := k + 1)
          rw [later] at course
          simpa [Account.refused, Offer.name] using course.cons (m := m) answer

theorem Course.offers (course : Course a answers methods r log tried) :
    tried <+: methods.map .method := by
  cases course with
  | accepted front m back => exact ⟨back.map .method, by simp⟩
  | failed front m back => exact ⟨back.map .method, by simp⟩
  | rejected => exact List.prefix_refl _

theorem Course.ok_iff (course : Course a answers methods r log tried) :
    r = .ok () ↔ ∃ k < tried.length, answers k = .accepted := by
  cases course with
  | accepted front m back before here => exact iff_of_true rfl ⟨front.length, by simp, here⟩
  | failed front m back reason before here =>
      refine iff_of_false nofun ?_
      rintro ⟨k, lt, accepted⟩
      rcases Nat.lt_or_eq_of_le (Nat.le_of_lt_succ (by simpa using lt)) with early | rfl
      · simp [before k early] at accepted
      · simp [here] at accepted
  | rejected _ every =>
      refine iff_of_false nofun ?_
      rintro ⟨k, lt, accepted⟩
      simp [every k (by simpa using lt)] at accepted

theorem first_answer {n k : Nat} {answer : Answer} (before : ∀ j < n, answers j = .rejected)
    (here : answers n ≠ .rejected) (early : ∀ j < k, answers j = .rejected)
    (there : answers k = answer) (other : answer ≠ .rejected) : answers n = answer := by
  rcases Nat.lt_trichotomy k n with lt | rfl | lt
  · exact absurd (there.symm.trans (before k lt)) other
  · exact there
  · exact absurd (early n lt) here

/-- The error of a rejection is that of a login whose methods were all rejected, or that of a failure of
the session which has the same text. -/
theorem Course.rejected_iff (course : Course a answers methods r log tried) :
    r = .error (.auth rejectedReason) ↔
      (∀ k < methods.length, answers k = .rejected) ∨
      ∃ k < methods.length, (∀ j < k, answers j = .rejected) ∧
        answers k = .failed rejectedReason := by
  cases course with
  | accepted front m back before here =>
      refine iff_of_false nofun ?_
      rintro (every | ⟨k, -, early, failed⟩)
      · simp [every front.length (by simp)] at here
      · have same := first_answer before (by simp [here]) early failed nofun
        simp [here] at same
  | failed front m back reason before here =>
      constructor
      · rintro ⟨⟩
        exact .inr ⟨front.length, by simp, before, here⟩
      · rintro (every | ⟨k, -, early, failed⟩)
        · simp [every front.length (by simp)] at here
        · have same := first_answer before (by simp [here]) early failed nofun
          rw [here] at same
          cases same
          rfl
  | rejected _ every => exact iff_of_true rfl (.inl every)

/-! ## Whole logins -/

theorem course_run (some : i.methods ≠ []) : Course ⟨gateway, i.username⟩ answers i.methods
    (run i gateway answers).1 (records (run i gateway answers).2)
    (offers (run i gateway answers).2) := by
  have course : Course ⟨gateway, i.username⟩ (fun j => answers (0 + j)) i.methods _ _ _ :=
    course_tryMethods
  simpa [run, some] using course

theorem offers_run : offers (run i gateway answers).2 <+: offersOf i := by
  by_cases none : i.methods = []
  · exact ⟨[], by simp [run, offersOf, none, offers_tryNothing]⟩
  · simpa [offersOf, none] using (course_run none).offers

theorem run_ok_iff : (run i gateway answers).1 = .ok () ↔
    ∃ k < (offers (run i gateway answers).2).length, answers k = .accepted := by
  by_cases none : i.methods = []
  · simp [run, none, offers_tryNothing, tryNothing_ok_iff]
  · exact (course_run none).ok_iff

/-- Where no failure of the session has the text of a rejection, a login fails as rejected if and only if
the gateway rejected every method. -/
theorem run_rejected_iff (some : i.methods ≠ [])
    (told : ∀ k < i.methods.length, answers k ≠ .failed rejectedReason) :
    (run i gateway answers).1 = .error (.auth rejectedReason) ↔
      ∀ k < i.methods.length, answers k = .rejected := by
  have never : ¬ ∃ k < i.methods.length, (∀ j < k, answers j = .rejected) ∧
      answers k = .failed rejectedReason := by
    rintro ⟨k, lt, -, failed⟩
    exact told k lt failed
  exact (course_run some).rejected_iff.trans (or_iff_left never)

/-- A login with methods tries them in order. It goes on after a rejection and stops at the first success,
or at the first failure of the session with its text. Each method that was tried, and no other, has its
attempt recorded and right behind it how that attempt ended; a success is the last record. The login fails
as rejected if and only if the gateway rejected every method, or the session failed with that very text. -/
theorem methods_tried_in_order (some : i.methods ≠ []) :
    Course ⟨gateway, i.username⟩ answers i.methods (run i gateway answers).1
      (records (run i gateway answers).2) (offers (run i gateway answers).2) ∧
    ((run i gateway answers).1 = .error (.auth rejectedReason) ↔
      (∀ k < i.methods.length, answers k = .rejected) ∨
      ∃ k < i.methods.length, (∀ j < k, answers j = .rejected) ∧
        answers k = .failed rejectedReason) :=
  ⟨course_run some, (course_run some).rejected_iff⟩

theorem methods_tried_in_order_second :
    let i : Identity := ⟨"root", [.password "a", .password "b", .password "c"], .acceptAny⟩
    let answers : Nat → Answer := fun k => if k = 0 then .rejected else .accepted
    i.methods ≠ [] ∧
    Course ⟨"gateway:22", "root"⟩ answers i.methods (.ok ())
      [.authAttempt "gateway:22" "root" "password",
        .authFailure "gateway:22" "root" "password" rejectedReason,
        .authAttempt "gateway:22" "root" "password", .authSuccess "gateway:22" "root" "password"]
      [.method (.password "a"), .method (.password "b")] := by
  intro i answers
  have some : i.methods ≠ [] := List.cons_ne_nil _ _
  exact ⟨some, (@methods_tried_in_order i "gateway:22" answers some).1⟩

/-! ## All of it belongs to attempts -/

def Event.isAuth : Event → Bool
  | logged (.authAttempt ..) | logged (.authSuccess ..) | logged (.authFailure ..) | offered _ => true
  | _ => false

theorem isAuth_tryMethods : ∀ e ∈ (a.tryMethods answers k methods).2, e.isAuth = true := by
  induction methods generalizing k with
  | nil => nofun
  | cons m rest ih =>
      rw [Account.tryMethods_cons]
      cases answers k with
      | accepted => simp [Account.attempt, Account.success, Event.isAuth]
      | failed reason => simp [Account.attempt, Account.failure, Event.isAuth]
      | rejected =>
          simp only [Account.attempt, Account.failure, List.mem_append, List.mem_cons]
          rintro e (((rfl | rfl | none) | rfl | none) | later)
          · rfl
          · rfl
          · cases none
          · rfl
          · cases none
          · exact ih e later

theorem isAuth_run : ∀ e ∈ (run i gateway answers).2, e.isAuth = true := by
  unfold run
  split
  · cases answers 0 <;>
      simp [Account.tryNothing, Account.attempt, Account.success, Account.failure, Event.isAuth]
  · exact isAuth_tryMethods

end GatewayTunnel.Login
