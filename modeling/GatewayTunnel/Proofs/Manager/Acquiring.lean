import GatewayTunnel.Proofs.Backoff.Retrying
import GatewayTunnel.Proofs.Manager.Call

namespace GatewayTunnel.Manager

variable {g : Gateway} {a : Action} {as : List Action} {es fs : List Event} {c : CallId}
  {t : TransportId} {p q : Phase} {errors : List IoError} {e : IoError} {pause : Duration}
  {next : Attempts} {spent : RetryError IoError}

def Action.isAnswer : Action → Bool
  | dialEnded .. | shakeEnded .. | closeEnded .. => true
  | _ => false

def Event.isWork : Event → Bool
  | dialStarted .. | shakeStarted _ | created .. | published .. | watched .. | evicted .. | took ..
  | closeStarted .. => true
  | _ => false

theorem Turn.caller?_of_isAnswer (turn : Turn g c a p q fs) (answer : a.isAnswer = true) :
    a.caller? = some c := by
  cases turn with
  | alone own => exact own.caller?_eq
  | handed => cases answer
  | _ => rfl

/-! ## Dialling -/

def refusals (c : CallId) (errors : List IoError) : List Action :=
  errors.map fun e => .dialEnded c (.error e)

def progress (errors : List IoError) : Attempts :=
  ⟨errors.length, errors.foldl (Backoff.keep IoError.message) []⟩

def dialled (c : CallId) (old : Option TransportId) (attempts : Nat) : List Event :=
  old.toList.map (.evicted c) ++ (List.range attempts).map (.dialStarted c)

def connected (c : CallId) (errors : List IoError) : List Action :=
  refusals c errors ++ [.dialEnded c (.ok ())]

def shaken (c : CallId) (old : Option TransportId) (errors : List IoError) : List Event :=
  dialled c old (errors.length + 1) ++ [.shakeStarted c]

def unreachable (g : Gateway) (errors : List IoError) : TunnelError :=
  .connect g.endpoint.render ⟨g.backoff.attempts, (progress errors).errors⟩

theorem refusals_concat : refusals c (errors ++ [e]) = refusals c errors ++ [.dialEnded c (.error e)] :=
  List.map_append

theorem dialled_succ (old : Option TransportId) (n : Nat) :
    dialled c old (n + 1) = dialled c old n ++ [.dialStarted c n] := by
  simp [dialled, List.range_succ]

theorem progress_eq_after : progress errors = .after IoError.message errors := rfl

theorem progress_of_retry
    (retried : (progress errors).fail g.backoff IoError.message e = .ok (pause, next)) :
    next = progress (errors ++ [e]) ∧ errors.length + 1 < g.backoff.attempts := by
  rw [progress_eq_after] at retried
  by_cases more : errors.length + 1 < g.backoff.attempts
  · rw [Backoff.fail_after_of_lt more] at retried
    cases retried
    exact ⟨rfl, more⟩
  · rw [Backoff.fail_after_of_last (Nat.not_lt.1 more)] at retried
    cases retried

theorem unreachable_of_spent (few : errors.length < g.backoff.attempts)
    (gaveUp : (progress errors).fail g.backoff IoError.message e = .error spent) :
    (errors ++ [e]).length = g.backoff.attempts ∧
      TunnelError.connect g.endpoint.render spent = unreachable g (errors ++ [e]) := by
  rw [progress_eq_after] at gaveUp
  by_cases more : errors.length + 1 < g.backoff.attempts
  · rw [Backoff.fail_after_of_lt more] at gaveUp
    cases gaveUp
  · rw [Backoff.fail_after_of_last (Nat.not_lt.1 more)] at gaveUp
    cases gaveUp
    refine ⟨?_, rfl⟩
    rw [List.length_append, List.length_singleton]
    omega

theorem attempts_pos : 0 < g.backoff.attempts :=
  Nat.le_max_left ..

/-! ## Acquiring -/

/-- What an acquire has been told and has done that has come to a place. -/
def Effort (g : Gateway) (c : CallId) : Phase → List Action → List Event → Prop
  | .entered, told, work | .asking .acquire, told, work | .waiting .acquire, told, work
  | .locked .acquire, told, work => told = [] ∧ work = []
  | .ready p, told, work | .pausing _ p, told, work => ∃ old errors, p = progress errors ∧
      errors.length < g.backoff.attempts ∧ told = refusals c errors ∧
      work = dialled c old errors.length
  | .dialing p, told, work => ∃ old errors, p = progress errors ∧
      errors.length < g.backoff.attempts ∧ told = refusals c errors ∧
      work = dialled c old (errors.length + 1)
  | .dialed, told, work => ∃ old errors, told = connected c errors ∧
      work = dialled c old (errors.length + 1)
  | .shaking, told, work => ∃ old errors, told = connected c errors ∧ work = shaken c old errors
  | .publishing t, told, work => ∃ old errors, told = connected c errors ++ [.shakeEnded c (.ok ())] ∧
      work = shaken c old errors ++ [.created c t]
  | .watching t, told, work => ∃ old errors, told = connected c errors ++ [.shakeEnded c (.ok ())] ∧
      work = shaken c old errors ++ [.created c t, .published c t]
  | .leaving (.acquired t), told, work | .done (.acquired t), told, work =>
      (told = [] ∧ work = []) ∨
        ∃ old errors, told = connected c errors ++ [.shakeEnded c (.ok ())] ∧
          work = shaken c old errors ++ [.created c t, .published c t, .watched c t]
  | .leaving (.failed e), told, work | .done (.failed e), told, work =>
      (∃ old errors, e = unreachable g errors ∧ errors.length = g.backoff.attempts ∧
          told = refusals c errors ∧ work = dialled c old errors.length) ∨
        ∃ old errors, told = connected c errors ++ [.shakeEnded c (.error e)] ∧
          work = shaken c old errors
  | _, _, _ => False

namespace Effort

variable {told : List Action} {work : List Event}

theorem alone (effort : Effort g c p told work) (own : Alone g c a p q fs) :
    Effort g c q (told ++ [a].filter Action.isAnswer) (work ++ fs.filter Event.isWork) := by
  cases own with
  | enter | approach | disconnect | disconnected => exact effort.elim
  | dial =>
      obtain ⟨old, errors, rfl, few, rfl, rfl⟩ := effort
      refine ⟨old, errors, rfl, few, List.append_nil _, ?_⟩
      rw [dialled_succ]
      rfl
  | connected =>
      obtain ⟨old, errors, rfl, few, rfl, rfl⟩ := effort
      exact ⟨old, errors, rfl, List.append_nil _⟩
  | retry retried =>
      obtain ⟨old, errors, rfl, few, rfl, rfl⟩ := effort
      obtain ⟨rfl, more⟩ := progress_of_retry retried
      refine ⟨old, errors ++ [_], rfl, by simpa using more, refusals_concat.symm, ?_⟩
      rw [List.length_append]
      exact List.append_nil _
  | exhausted gaveUp =>
      obtain ⟨old, errors, rfl, few, rfl, rfl⟩ := effort
      obtain ⟨all, same⟩ := unreachable_of_spent few gaveUp
      refine .inl ⟨old, errors ++ [_], same, all, refusals_concat.symm, ?_⟩
      rw [List.length_append]
      exact List.append_nil _
  | resume =>
      obtain ⟨old, errors, rfl, few, rfl, rfl⟩ := effort
      exact ⟨old, errors, rfl, few, List.append_nil _, List.append_nil _⟩
  | shake =>
      obtain ⟨old, errors, rfl, rfl⟩ := effort
      exact ⟨old, errors, List.append_nil _, rfl⟩
  | refused =>
      obtain ⟨old, errors, rfl, rfl⟩ := effort
      exact .inr ⟨old, errors, rfl, List.append_nil _⟩

theorem leave (effort : Effort g c p told work) (own : Leaving c p q fs) :
    Effort g c q told (work ++ fs.filter Event.isWork) := by
  cases own with
  | reply r =>
      rw [show [Event.returned c r].filter Event.isWork = [] from rfl, List.append_nil]
      cases r with
      | acquired | failed => exact effort
      | closed => exact effort.elim
  | nothing | close => exact effort.elim

theorem turn (effort : Effort g c p told work) (turn : Turn g c a p q fs) :
    Effort g c q (told ++ [a].filter Action.isAnswer) (work ++ fs.filter Event.isWork) := by
  cases turn with
  | alone own => exact effort.alone own
  | leave own =>
      rw [show [Action.proceed c].filter Action.isAnswer = [] from rfl, List.append_nil]
      exact effort.leave own
  | hit =>
      obtain ⟨rfl, rfl⟩ := effort
      exact .inl ⟨rfl, rfl⟩
  | miss =>
      obtain ⟨rfl, rfl⟩ := effort
      exact ⟨rfl, rfl⟩
  | lock goal | wait goal | handed goal =>
      cases goal with
      | acquire =>
          obtain ⟨rfl, rfl⟩ := effort
          exact ⟨rfl, rfl⟩
      | close => exact effort.elim
  | reuse =>
      obtain ⟨rfl, rfl⟩ := effort
      exact .inl ⟨rfl, rfl⟩
  | vacate old =>
      obtain ⟨rfl, rfl⟩ := effort
      refine ⟨old, [], rfl, attempts_pos, rfl, ?_⟩
      cases old <;> rfl
  | take => exact effort.elim
  | create =>
      obtain ⟨old, errors, rfl, rfl⟩ := effort
      exact ⟨old, errors, rfl, rfl⟩
  | publish =>
      obtain ⟨old, errors, rfl, rfl⟩ := effort
      exact ⟨old, errors, List.append_nil _, by simp [Event.isWork]⟩
  | watch =>
      obtain ⟨old, errors, rfl, rfl⟩ := effort
      exact .inr ⟨old, errors, List.append_nil _, by simp [Event.isWork]⟩

end Effort

end GatewayTunnel.Manager
