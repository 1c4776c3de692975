import GatewayTunnel.Proofs.Manager.Acquiring
import GatewayTunnel.Proofs.Manager.Calm
import GatewayTunnel.Proofs.Relay.Interruption
import GatewayTunnel.Proofs.Request.Transition

/-!
# The stages of a request

`Course` says for each place of a request what it has been told and what it has done, in order: the
destination is checked, a transport is acquired, a channel is opened, and bytes are copied. Each stage
begins after the one before has succeeded, and a request returns the error of the one that failed.
`pipeline_in_order` says that this is how every request goes, whatever the others do, and that a
request touches the manager with the call of its second stage only.
-/

namespace GatewayTunnel

theorem Destination.checkStream_eq_ok {d : Destination} :
    d.checkStream = .ok () ↔ d.network = .tcp := by
  unfold checkStream
  split <;> simp_all

theorem Destination.checkStream_eq_error {d : Destination} {e : TunnelError}
    (rejected : d.checkStream = .error e) : d.network ≠ .tcp ∧ e = .unsupported d.network := by
  unfold checkStream at rejected
  split at rejected
  · cases rejected
  · rename_i datagram
    cases rejected
    exact ⟨datagram, rfl⟩

namespace Request

open Manager (CallId TransportId Effort)

variable {g : Gateway} {ends : Except TunnelError Unit → Prop} {s s' : State} {a : Action}
  {as : List Action} {es fs : List Event} {c c' : CallId} {d : Destination} {t : TransportId}
  {p q : Phase} {r : Except TunnelError Unit} {place place' : Manager.Phase} {told : List Action}
  {work : List Event}

def Action.isTold (c : CallId) : Action → Bool
  | arrive c' _ | openEnded c' _ | copyEnded c' _ => c' = c
  | manager a => a.isAnswer && a.caller? = some c
  | proceed _ => false

def Event.isWorkOf (c : CallId) : Event → Bool
  | manager e => e.isWork && e.isOf c
  | openStarted c' .. | copyStarted c' | returned c' _ => c' = c

/-- What a request has been told and has done that has come to a place, with its call at another. The
copying ends in one of the given ways. -/
inductive Course (g : Gateway) (ends : Except TunnelError Unit → Prop) (c : CallId) :
    Phase → Manager.Phase → List Action → List Event → Prop where
  | absent : Course g ends c .absent .absent [] []
  | routing (d : Destination) : Course g ends c (.routing d) .absent [.arrive c d] []
  | rejected {d : Destination} : d.network ≠ .tcp →
      Course g ends c (.done (.error (.unsupported d.network))) .absent [.arrive c d]
        [.returned c (.error (.unsupported d.network))]
  | acquiring {d : Destination} {place : Manager.Phase} {told : List Manager.Action}
      {work : List Manager.Event} : d.network = .tcp → Effort g c place told work →
      Course g ends c (.acquiring d) place (.arrive c d :: told.map .manager) (work.map .manager)
  | failed {d : Destination} {e : TunnelError} {told : List Manager.Action}
      {work : List Manager.Event} : d.network = .tcp → Effort g c (.done (.failed e)) told work →
      Course g ends c (.done (.error e)) (.done (.failed e)) (.arrive c d :: told.map .manager)
        (work.map .manager ++ [.returned c (.error e)])
  | opening {d : Destination} {t : TransportId} {told : List Manager.Action}
      {work : List Manager.Event} : d.network = .tcp → Effort g c (.done (.acquired t)) told work →
      Course g ends c (.opening d t) (.done (.acquired t)) (.arrive c d :: told.map .manager)
        (work.map .manager ++ [.openStarted c t d])
  | refused {d : Destination} {t : TransportId} {e : TunnelError} {told : List Manager.Action}
      {work : List Manager.Event} : d.network = .tcp → Effort g c (.done (.acquired t)) told work →
      Course g ends c (.done (.error e)) (.done (.acquired t))
        (.arrive c d :: told.map .manager ++ [.openEnded c (.error e)])
        (work.map .manager ++ [.openStarted c t d, .returned c (.error e)])
  | copying {d : Destination} {t : TransportId} {told : List Manager.Action}
      {work : List Manager.Event} : d.network = .tcp → Effort g c (.done (.acquired t)) told work →
      Course g ends c (.copying d t) (.done (.acquired t))
        (.arrive c d :: told.map .manager ++ [.openEnded c (.ok ())])
        (work.map .manager ++ [.openStarted c t d, .copyStarted c])
  | copied {d : Destination} {t : TransportId} {r : Except TunnelError Unit}
      {told : List Manager.Action} {work : List Manager.Event} : d.network = .tcp →
      Effort g c (.done (.acquired t)) told work → ends r →
      Course g ends c (.done r) (.done (.acquired t))
        (.arrive c d :: told.map .manager ++ [.openEnded c (.ok ()), .copyEnded c r])
        (work.map .manager ++ [.openStarted c t d, .copyStarted c, .returned c r])

/-! ## Steps -/

theorem Alone.isTold_iff {m : Manager.State} (alone : Alone m c' a p q fs) (other : c' ≠ c) :
    [a].filter (·.isTold c) = [] ∧ fs.filter (·.isWorkOf c) = [] := by
  cases alone <;> simp [Action.isTold, Event.isWorkOf, other]

theorem Course.alone {m : Manager.State} (course : Course g ends c p (m.calls c) told work)
    (alone : Alone m c a p q fs)
    (relayed : ∀ r, a = .copyEnded c r → ends r) :
    Course g ends c q (m.calls c) (told ++ [a].filter (·.isTold c))
      (work ++ fs.filter (·.isWorkOf c)) := by
  generalize called : m.calls c = place at course ⊢
  cases alone with
  | arrive d =>
      cases course
      simpa [Action.isTold] using Course.routing d
  | rejected rejected =>
      cases course
      obtain ⟨datagram, rfl⟩ := Destination.checkStream_eq_error rejected
      simpa [Action.isTold, Event.isWorkOf] using Course.rejected datagram
  | acquired replied =>
      cases course with
      | acquiring stream effort =>
          obtain rfl := called.symm.trans replied
          simpa [Action.isTold, Event.isWorkOf] using Course.opening stream effort
  | failed replied =>
      cases course with
      | acquiring stream effort =>
          obtain rfl := called.symm.trans replied
          simpa [Action.isTold, Event.isWorkOf] using Course.failed stream effort
  | opened =>
      cases course with
      | opening stream effort =>
          simpa [Action.isTold, Event.isWorkOf] using Course.copying stream effort
  | refused d t e =>
      cases course with
      | opening stream effort =>
          have ended : Course g ends c (.done (.error e)) _ _ _ := .refused stream effort
          simpa [Action.isTold, Event.isWorkOf] using ended
  | copied d t r =>
      cases course with
      | copying stream effort =>
          simpa [Action.isTold, Event.isWorkOf] using Course.copied stream effort (relayed r rfl)

theorem filter_isWorkOf (es : List Manager.Event) : (es.map Event.manager).filter (·.isWorkOf c) =
    ((es.filter (·.isOf c)).filter Manager.Event.isWork).map .manager := by
  rw [List.filter_map, List.filter_filter]
  rfl

theorem filter_isTold {b : Manager.Action} (own : b.isAnswer = true → b.caller? = some c) :
    [Action.manager b].filter (·.isTold c) = ([b].filter Manager.Action.isAnswer).map .manager := by
  cases answer : b.isAnswer with
  | false => simp [Action.isTold, answer]
  | true => simp [Action.isTold, answer, own answer]

theorem Course.managed {b : Manager.Action} {shown : List Manager.Event}
    (course : Course g ends c p place told work) (own : ∀ goal, b ≠ .arrive c goal)
    (turn : Manager.Turn g c b place place' (shown.filter (·.isOf c))) :
    Course g ends c p place' (told ++ [Action.manager b].filter (·.isTold c))
      (work ++ (shown.map Event.manager).filter (·.isWorkOf c)) := by
  have absent : place ≠ .absent := by
    rintro rfl
    obtain ⟨goal, rfl⟩ := turn.arrival
    exact own goal rfl
  cases course with
  | absent | routing | rejected => exact absurd rfl absent
  | acquiring stream effort =>
      rw [filter_isWorkOf, filter_isTold turn.caller?_of_isAnswer, List.cons_append,
        ← List.map_append, ← List.map_append]
      exact .acquiring stream (effort.turn turn)
  | failed | opening | refused | copying | copied => exact absurd turn Manager.Turn.not_done

theorem Course.step (course : Course g ends c (s.requests c) (s.manager.calls c) told work)
    (inv : Manager.LockInv s.manager) (h : Transition g s a s' fs)
    (own : ∀ goal, a ≠ .manager (.arrive c goal))
    (relayed : ∀ r, a = .copyEnded c r → ends r) :
    Course g ends c (s'.requests c) (s'.manager.calls c) (told ++ [a].filter (·.isTold c))
      (work ++ fs.filter (·.isWorkOf c)) := by
  cases h with
  | @alone c' a p q fs alone phase =>
      by_cases here : c' = c
      · subst here
        rw [State.move_self, State.move_manager]
        exact (phase ▸ course).alone alone relayed
      · obtain ⟨nothing, nowhere⟩ := alone.isTold_iff here
        rw [State.move_ne (Ne.symm here), State.move_manager, nothing, nowhere, List.append_nil,
          List.append_nil]
        exact course
  | @acquire c' d phase stream absent =>
      rw [show [Action.proceed c'].filter (·.isTold c) = [] from rfl, List.filter_nil,
        List.append_nil, List.append_nil]
      by_cases here : c' = c
      · subst here
        rw [phase, absent] at course
        cases course
        have begins : Effort g c' .entered [] [] := ⟨rfl, rfl⟩
        simpa using Course.acquiring (Destination.checkStream_eq_ok.1 stream) begins
      · have other := Ne.symm here
        simpa only [State.move_ne other, Manager.State.move_calls_ne other] using course
  | @managed b m shown moved =>
      rcases (Manager.Transition.of_step moved).turn inv c with ⟨same, unseen, other⟩ | turn
      · have untold : (Action.manager b).isTold c = false := by simp [Action.isTold, other]
        rw [filter_isWorkOf, unseen, List.filter_cons_of_neg (by simp [untold]), same]
        simpa using course
      · exact course.managed (fun goal same => own goal (congrArg _ same)) turn

/-! ## Runs -/

def Relayed (g : Gateway) (r : Except TunnelError Unit) : Prop :=
  ∃ asked d gone events now left flag,
    Relay.run g.policy (.start asked d gone) events = some ⟨.ended now r (some left), flag⟩

def FailsAsRelay (r : Except TunnelError Unit) : Prop :=
  ∀ e, r = .error e → ∃ cause, e = .relay cause

theorem Relayed.failsAsRelay (relayed : Relayed g r) : FailsAsRelay r := by
  obtain ⟨asked, d, gone, events, now, left, flag, ran⟩ := relayed
  rintro e rfl
  exact Relay.relay_of_ended ran

theorem course_of_reached (reached : Reached g as s es)
    (own : ∀ goal, .manager (.arrive c goal) ∉ as)
    (relayed : ∀ r, .copyEnded c r ∈ as → ends r) :
    Course g ends c (s.requests c) (s.manager.calls c) (as.filter (·.isTold c))
      (es.filter (·.isWorkOf c)) := by
  induction reached with
  | refl => exact .absent
  | snoc before moved ih =>
      have course := ih (fun goal member => own goal (List.mem_append_left _ member))
        fun r member => relayed r (List.mem_append_left _ member)
      rw [List.filter_append, List.filter_append]
      refine course.step (lockInv_of_reached before) (.of_step moved) ?_ ?_
      · rintro goal rfl
        exact own goal (List.mem_append_right _ (.head _))
      · rintro r rfl
        exact relayed r (List.mem_append_right _ (.head _))

def Phase.isOver : Phase → Bool
  | absent | done _ => true
  | _ => false

theorem Course.isOver (course : Course g ends c p place told work) (atEnd : p.isOver = true) :
    place.isOver = true := by
  cases course <;> first | rfl | cases atEnd

theorem Course.returned_of_done (course : Course g ends c (.done r) place told work) :
    .returned c r ∈ work := by
  cases course <;> simp

theorem pipeline_in_order (ran : run g .start as = some (s, es))
    (relayed : ∀ c r, .copyEnded c r ∈ as → Relayed g r) :
    (∀ c, (∀ goal, .manager (.arrive c goal) ∉ as) →
      Course g FailsAsRelay c (s.requests c) (s.manager.calls c) (as.filter (·.isTold c))
        (es.filter (·.isWorkOf c))) ∧
    ∀ a c s' fs, a.caller? = some c → step g s a = some (s', fs) →
      (∀ c' ≠ c, s'.requests c' = s.requests c') ∧ (∀ e ∈ fs, e.manager? = none) ∧
        (s'.manager = s.manager ∨ ∃ d, a = .proceed c ∧ s.requests c = .routing d ∧
          d.network = .tcp ∧ s'.manager = s.manager.move c .entered) := by
  have reached := run_iff.1 ran
  refine ⟨fun c own => course_of_reached reached own
    fun r copied => (relayed c r copied).failsAsRelay, ?_⟩
  intro a c s' fs mine moved
  obtain ⟨others, unmanaged, manager⟩ := (Transition.of_step moved).frame mine
  refine ⟨others, unmanaged, manager.imp_right ?_⟩
  rintro ⟨d, rfl, phase, stream, called⟩
  exact ⟨d, rfl, phase, Destination.checkStream_eq_ok.1 stream, called⟩

/-- A request acquires a transport for itself and opens a channel, and then its caller's connection
breaks; another one is for a datagram. -/
def brokenRequest : List Action := List.flatten [
  [.arrive 0 (.tcp "host" 80), .arrive 1 (.udp "host" 53), .proceed 0, .proceed 1],
  (Manager.acquireAlone 0).tail.map .manager,
  [.proceed 0, .openEnded 0 (.ok ()), .copyEnded 0 (.error (.relay (.bare .connectionReset)))]]

theorem relayed_broken :
    Relayed Manager.sampleGateway (.error (.relay (.bare .connectionReset))) :=
  ⟨0, .tcp "host" 80, false, [(1, .opened (.ok ())),
    (2, .copied .request (.readFailed (.bare .connectionReset)))], 2, _, _, rfl⟩

theorem pipeline_in_order_broken : ∃ s es,
    run Manager.sampleGateway .start brokenRequest = some (s, es) ∧
    (∀ c r, .copyEnded c r ∈ brokenRequest → Relayed Manager.sampleGateway r) ∧
    (∀ c goal, .manager (.arrive c goal) ∉ brokenRequest) ∧
    ∀ c, Course Manager.sampleGateway FailsAsRelay c (s.requests c) (s.manager.calls c)
      (brokenRequest.filter (·.isTold c)) (es.filter (·.isWorkOf c)) := by
  have possible : (run Manager.sampleGateway .start brokenRequest).isSome = true := by
    decide +kernel
  obtain ⟨⟨s, es⟩, ran⟩ := Option.isSome_iff_exists.1 possible
  have relayed : ∀ c r, .copyEnded c r ∈ brokenRequest → Relayed Manager.sampleGateway r := by
    intro c r member
    simp [brokenRequest, Manager.acquireAlone] at member
    rw [member.2]
    exact relayed_broken
  have own : ∀ c goal, .manager (.arrive c goal) ∉ brokenRequest := by
    simp [brokenRequest, Manager.acquireAlone]
  exact ⟨s, es, ran, relayed, own, fun c => (pipeline_in_order ran relayed).1 c (own c)⟩

end Request

end GatewayTunnel
