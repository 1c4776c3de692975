import GatewayTunnel.Proofs.Closing.Transition

/-!
# Closing once

The first call that sets the flag is the only one that may ask the gateway to disconnect, and it asks unless
it finds the session closed; every other call has nothing left to do (`Led`). The handler records one end,
with what the flag was when it began to go (`Traced`). Both hold for every order of the accesses, and give
`settled_once`.
-/

namespace GatewayTunnel.Closing

open Transport (CallId Action Event)

variable {g : String} {s s' : State} {a : Action} {as : List Action} {es fs : List Event}
  {c c' : CallId} {phase : Phase} {asked : List CallId} {byClient : Bool}

/-! ## What a run says -/

def stepping? : Action → Option CallId
  | .proceed c => some c
  | _ => none

/-- The first call that sets the flag, which every call does with its first step. -/
def first? (as : List Action) : Option CallId :=
  as.findSome? stepping?

theorem first?_snoc : first? (as ++ [a]) = (first? as).or (stepping? a) := by
  simp [first?, List.findSome?_append]

theorem first?_isSome_iff : (first? as).isSome = true ↔ ∃ c, .proceed c ∈ as := by
  rw [first?, List.isSome_findSome?, List.any_eq_true]
  constructor
  · rintro ⟨a, member, steps⟩
    cases a with
    | proceed c => exact ⟨c, member⟩
    | _ => cases steps
  · rintro ⟨c, member⟩
    exact ⟨_, member, rfl⟩

def asks (es : List Event) : List CallId :=
  es.filterMap fun
    | .disconnectAsked c => some c
    | _ => none

theorem asks_append : asks (es ++ fs) = asks es ++ asks fs :=
  List.filterMap_append

@[simp] theorem asks_nil : asks [] = [] := rfl

@[simp] theorem asks_returned {r : Except TunnelError Unit} : asks [.returned c r] = [] := rfl

@[simp] theorem asks_logged {e : AuditEvent} : asks [.logged e] = [] := rfl

def FindsClosed (s : State) (c : CallId) : Prop :=
  s.calls c = .flagged ∧ s.handler.isNoticed = true ∨
    s.calls c = .unnoticed ∧ s.sessionEnded = true

def SawClosed (g : String) (as : List Action) (c : CallId) : Prop :=
  ∃ before after t fs, as = before ++ .proceed c :: after ∧
    run (.start g) before = some (t, fs) ∧ FindsClosed t c

theorem sawClosed_snoc (reached : Reaches step (.start g) as s es) :
    SawClosed g (as ++ [a]) c ↔ SawClosed g as c ∨ a = .proceed c ∧ FindsClosed s c := by
  constructor
  · rintro ⟨before, after, t, fs, whole, ran, finds⟩
    rcases List.eq_nil_or_concat after with rfl | ⟨after, b, rfl⟩
    · obtain ⟨rfl, same⟩ := List.append_inj' whole rfl
      cases same
      rw [run_iff.2 reached] at ran
      cases ran
      exact .inr ⟨rfl, finds⟩
    · rw [List.concat_eq_append, ← List.cons_append, ← List.append_assoc] at whole
      obtain ⟨rfl, -⟩ := List.append_inj' whole rfl
      exact .inl ⟨before, after, t, fs, rfl, ran, finds⟩
  · rintro (⟨before, after, t, fs, rfl, ran, finds⟩ | ⟨rfl, finds⟩)
    · exact ⟨before, after ++ [a], t, fs, by simp, ran, finds⟩
    · exact ⟨as, [], s, es, rfl, run_iff.2 reached, finds⟩

theorem SawClosed.mem (saw : SawClosed g as c) : .proceed c ∈ as := by
  obtain ⟨before, after, -, -, rfl, -, -⟩ := saw
  exact List.mem_append_right _ List.mem_cons_self

/-! ## Calls -/

/-- Where the first call is that has set the flag, and which calls have asked the gateway to disconnect. -/
inductive Leads (g : String) (as : List Action) (c : CallId) : Phase → List CallId → Prop where
  | flagged : ¬SawClosed g as c → Leads g as c .flagged []
  | unnoticed : ¬SawClosed g as c → Leads g as c .unnoticed []
  | willing : ¬SawClosed g as c → Leads g as c .willing []
  | disconnecting : ¬SawClosed g as c → Leads g as c .disconnecting [c]
  | answered {r : Except TunnelError Unit} : ¬SawClosed g as c → Leads g as c (.done r) [c]
  | excused : SawClosed g as c → Leads g as c (.done (.ok ())) []

inductive Follows : Phase → Prop where
  | absent : Follows .absent
  | entered : Follows .entered
  | done : Follows (.done (.ok ()))

inductive Led (g : String) (as : List Action) (calls : CallId → Phase) :
    Option CallId → List CallId → Prop where
  | nobody : (∀ c, calls c = .absent ∨ calls c = .entered) → Led g as calls none []
  | somebody {c : CallId} {asked : List CallId} : Leads g as c (calls c) asked →
      (∀ c', c' ≠ c → Follows (calls c')) → Led g as calls (some c) asked

theorem Leads.congr (leads : Leads g as c phase asked)
    (same : SawClosed g (as ++ [a]) c ↔ SawClosed g as c) : Leads g (as ++ [a]) c phase asked := by
  cases leads with
  | flagged unseen => exact .flagged (mt same.1 unseen)
  | unnoticed unseen => exact .unnoticed (mt same.1 unseen)
  | willing unseen => exact .willing (mt same.1 unseen)
  | disconnecting unseen => exact .disconnecting (mt same.1 unseen)
  | answered unseen => exact .answered (mt same.1 unseen)
  | excused seen => exact .excused (same.2 seen)

theorem Leads.cases_asked (leads : Leads g as c phase asked) :
    asked = [] ∨ asked = [c] ∧ ¬SawClosed g as c := by
  cases leads with
  | disconnecting unseen | answered unseen => exact .inr ⟨rfl, unseen⟩
  | _ => exact .inl rfl

theorem Led.first_of_busy {first : Option CallId} (led : Led g as s.calls first asked)
    (there : s.calls c = phase) (busy : ¬Follows phase) : first = some c ∧
      Leads g as c phase asked ∧ ∀ c', c' ≠ c → Follows (s.calls c') := by
  subst there
  cases led with
  | nobody idle =>
      refine absurd ?_ busy
      rcases idle c with absent | entered
      · exact absent ▸ .absent
      · exact entered ▸ .entered
  | @somebody first asked leads follow =>
      by_cases same : c = first
      · subst same
        exact ⟨rfl, leads, follow⟩
      · exact absurd (follow c same) busy

theorem Led.congr {first : Option CallId} {calls : CallId → Phase} (led : Led g as calls first asked)
    (same : ∀ c, SawClosed g (as ++ [a]) c ↔ SawClosed g as c) :
    Led g (as ++ [a]) calls first asked := by
  cases led with
  | nobody idle => exact .nobody idle
  | somebody leads follow => exact .somebody (leads.congr (same _)) follow

theorem Led.advance (follow : ∀ c', c' ≠ c → Follows (s.calls c'))
    (leads : Leads g as c phase asked) : Led g as (s.move c phase).calls (some c) asked := by
  refine .somebody (by rwa [State.move_self]) fun c' other => ?_
  rw [State.move_other other]
  exact follow c' other

theorem Led.trail (leads : Leads g as c (s.calls c) asked)
    (follow : ∀ c', c' ≠ c → Follows (s.calls c')) (other : c ≠ c') (follows : Follows phase) :
    Led g as (s.move c' phase).calls (some c) asked := by
  refine .somebody (by rwa [State.move_other other]) fun c'' different => ?_
  by_cases same : c'' = c'
  · rw [same, State.move_self]
    exact follows
  · rw [State.move_other same]
    exact follow c'' different

theorem Led.arrive {first : Option CallId} (led : Led g as s.calls first asked)
    (absent : s.calls c = .absent) : Led g as (s.move c .entered).calls first asked := by
  cases led with
  | nobody idle =>
      refine .nobody fun c' => ?_
      by_cases same : c' = c
      · rw [same, State.move_self]
        exact .inr rfl
      · rw [State.move_other same]
        exact idle c'
  | @somebody first asked leads follow =>
      refine .trail leads follow ?_ .entered
      rintro rfl
      rw [absent] at leads
      cases leads

theorem Led.begin {bs : List Action} (led : Led g as s.calls none asked)
    (unseen : ¬SawClosed g bs c) : Led g bs (s.move c .flagged).calls (some c) asked := by
  cases led with
  | nobody idle =>
      refine .advance (fun c' _ => ?_) (.flagged unseen)
      rcases idle c' with absent | entered
      · exact absent ▸ .absent
      · exact entered ▸ .entered

theorem Led.go {first : Option CallId} {phase' : Phase} (led : Led g as s.calls first asked)
    (there : s.calls c = phase) (busy : ¬Follows phase)
    (goes : Leads g as c phase asked → Leads g (as ++ [a]) c phase' (asked ++ asks fs)) :
    Led g (as ++ [a]) (s.move c phase').calls (first.or (stepping? a)) (asked ++ asks fs) := by
  obtain ⟨rfl, leads, follow⟩ := led.first_of_busy there busy
  exact .advance follow (goes leads)

theorem Led.step (reached : Reaches step (.start g) as s es)
    (flag : s.closeRequested = (first? as).isSome) (led : Led g as s.calls (first? as) (asks es))
    (h : Transition s a s' fs) : Led g (as ++ [a]) s'.calls (first? (as ++ [a])) (asks (es ++ fs)) := by
  -- What a call has seen changes only with a look of its own.
  have same {c : CallId} (blind : ¬(a = .proceed c ∧ FindsClosed s c)) :
      SawClosed g (as ++ [a]) c ↔ SawClosed g as c := by
    rw [sawClosed_snoc reached, or_iff_left blind]
  rw [first?_snoc, asks_append]
  generalize asks es = asked at led
  cases h with
  | ended | going | noticed | recorded =>
      simp only [asks_nil, asks_logged, List.append_nil, stepping?, Option.or_none]
      exact led.congr fun c => same nofun
  | arrived absent =>
      simp only [asks_nil, List.append_nil, stepping?, Option.or_none]
      exact (led.arrive absent).congr fun c => same nofun
  | @late c entered set =>
      obtain ⟨first, isFirst⟩ := Option.isSome_iff_exists.1 (flag.symm.trans set)
      rw [isFirst] at led ⊢
      rw [asks_returned, List.append_nil, Option.some_or]
      cases led with
      | somebody leads follow =>
          have other : first ≠ c := by
            rintro rfl
            rw [entered] at leads
            cases leads
          refine .trail (leads.congr (same ?_)) follow other .done
          rintro ⟨⟨⟩, -⟩
          exact other rfl
  | @flagged c entered unset =>
      have none : first? as = none := Option.not_isSome_iff_eq_none.1 (by simp [← flag, unset])
      have unseen : ¬SawClosed g (as ++ [.proceed c]) c := by
        rw [sawClosed_snoc reached]
        rintro (saw | ⟨-, finds⟩)
        · have begun := first?_isSome_iff.2 ⟨c, saw.mem⟩
          rw [none] at begun
          cases begun
        · simp [FindsClosed, entered] at finds
      rw [none] at led ⊢
      rw [asks_nil, List.append_nil, Option.none_or, stepping?]
      exact Led.begin (s := { s with closeRequested := true }) led unseen
  | deserted flagged noticed =>
      refine led.go flagged nofun fun leads => ?_
      cases leads with
      | flagged => exact .excused ((sawClosed_snoc reached).2 (.inr ⟨rfl, .inl ⟨flagged, noticed⟩⟩))
  | unnoticed flagged unnoticed =>
      refine led.go flagged nofun fun leads => ?_
      cases leads with
      | flagged unseen => exact .unnoticed (mt (same (by simp [FindsClosed, flagged, unnoticed])).1 unseen)
  | outlived unnoticed ended =>
      refine led.go unnoticed nofun fun leads => ?_
      cases leads with
      | unnoticed =>
          exact .excused ((sawClosed_snoc reached).2 (.inr ⟨rfl, .inr ⟨unnoticed, ended⟩⟩))
  | willing unnoticed alive =>
      refine led.go unnoticed nofun fun leads => ?_
      cases leads with
      | unnoticed unseen => exact .willing (mt (same (by simp [FindsClosed, unnoticed, alive])).1 unseen)
  | asked willing =>
      refine led.go willing nofun fun leads => ?_
      cases leads with
      | willing unseen => exact .disconnecting (mt (same (by simp [FindsClosed, willing])).1 unseen)
  | disconnected disconnecting =>
      refine led.go disconnecting nofun fun leads => ?_
      cases leads with
      | disconnecting unseen => exact .answered (mt (same nofun).1 unseen)

/-! ## The handler -/

def Began (as : List Action) (byClient : Bool) : Prop :=
  ∃ before after, as = before ++ .dropHandler :: after ∧ .dropHandler ∉ before ∧
    byClient = (first? before).isSome

theorem Began.snoc (began : Began as byClient) : Began (as ++ [a]) byClient := by
  obtain ⟨before, after, rfl, fresh, same⟩ := began
  exact ⟨before, after ++ [a], by simp, fresh, same⟩

/-- What the handler has recorded, where it is. -/
inductive Traced (g : String) (as : List Action) : Handler → List AuditEvent → Prop where
  | alive : .dropHandler ∉ as → Traced g as .alive []
  | going {byClient : Bool} : Began as byClient → Traced g as (.going byClient) []
  | noticed {byClient : Bool} : Began as byClient → Traced g as (.noticed byClient) []
  | gone {byClient : Bool} : Began as byClient → Traced g as .gone [.transportClosed g byClient]

theorem Traced.still {handler : Handler} {records : List AuditEvent}
    (traced : Traced g as handler records) (other : a ≠ .dropHandler) :
    Traced g (as ++ [a]) handler records := by
  cases traced with
  | alive fresh => exact .alive (by simp [fresh, other.symm])
  | going began => exact .going began.snoc
  | noticed began => exact .noticed began.snoc
  | gone began => exact .gone began.snoc

theorem Traced.step (gateway : s.gateway = g) (flag : s.closeRequested = (first? as).isSome)
    (traced : Traced g as s.handler (es.filterMap Event.logged?)) (h : Transition s a s' fs) :
    Traced g (as ++ [a]) s'.handler ((es ++ fs).filterMap Event.logged?) := by
  rw [List.filterMap_append]
  generalize es.filterMap Event.logged? = records at traced
  have quiet {fs : List Event} (same : s'.handler = s.handler) (other : a ≠ .dropHandler)
      (none : fs.filterMap Event.logged? = []) :
      Traced g (as ++ [a]) s'.handler (records ++ fs.filterMap Event.logged?) := by
    rw [none, List.append_nil, same]
    exact traced.still other
  cases h with
  | going alive =>
      rw [alive] at traced
      cases traced with
      | alive fresh => exact .going ⟨as, [], rfl, fresh, flag⟩
  | noticed going =>
      rw [going] at traced
      cases traced with
      | going began => exact .noticed began.snoc
  | recorded noticed =>
      rw [noticed] at traced
      cases traced with
      | noticed began =>
          rw [← gateway]
          exact .gone began.snoc
  | _ => exact quiet rfl nofun rfl

/-! ## Runs -/

structure Ordered (g : String) (as : List Action) (s : State) (es : List Event) : Prop where
  gateway : s.gateway = g
  flag : s.closeRequested = (first? as).isSome
  led : Led g as s.calls (first? as) (asks es)
  traced : Traced g as s.handler (es.filterMap Event.logged?)

theorem Transition.gateway (h : Transition s a s' fs) : s'.gateway = s.gateway := by
  cases h <;> rfl

theorem Ordered.flag_step (ordered : Ordered g as s es) (h : Transition s a s' fs) :
    s'.closeRequested = (first? (as ++ [a])).isSome := by
  have kept (begun : (first? as).isSome = true) (same : s'.closeRequested = s.closeRequested) :
      s'.closeRequested = (first? (as ++ [a])).isSome := by
    rw [first?_snoc, same, ordered.flag, Option.isSome_or, begun, Bool.true_or]
  have busy {c : CallId} {phase : Phase} (there : s.calls c = phase) (busy : ¬Follows phase) :
      (first? as).isSome = true := by
    rw [(ordered.led.first_of_busy there busy).1]
    rfl
  cases h with
  | late _ set => exact kept (ordered.flag.symm.trans set) rfl
  | flagged =>
      rw [first?_snoc, Option.isSome_or, stepping?, Option.isSome_some, Bool.or_true]
      rfl
  | deserted there | unnoticed there => exact kept (busy there nofun) rfl
  | outlived there | willing there => exact kept (busy there nofun) rfl
  | asked there => exact kept (busy there nofun) rfl
  | _ =>
      simp only [first?_snoc, stepping?, Option.or_none]
      exact ordered.flag

theorem ordered_of_reached (reached : Reaches step (.start g) as s es) : Ordered g as s es := by
  induction reached with
  | refl => exact ⟨rfl, rfl, .nobody fun _ => .inl rfl, .alive List.not_mem_nil⟩
  | snoc before moved ordered =>
      have h := Transition.of_step moved
      exact ⟨h.gateway.trans ordered.gateway, ordered.flag_step h,
        ordered.led.step before ordered.flag h, ordered.traced.step ordered.gateway ordered.flag h⟩

theorem State.move_open {phase' : Phase} {r : Except TunnelError Unit} (there : s.calls c' = phase)
    (before : ∀ r, phase ≠ .done r) (after : ∀ r, phase' ≠ .done r) (quiet : .returned c r ∉ fs) :
    (s.move c' phase').calls c = .done r ↔ s.calls c = .done r ∨ .returned c r ∈ fs := by
  rw [or_iff_left quiet]
  by_cases same : c = c'
  · subst same
    rw [State.move_self, there]
    exact iff_of_false (after r) (before r)
  · rw [State.move_other same]

theorem State.move_done {r r' : Except TunnelError Unit} (there : s.calls c' = phase)
    (before : ∀ r, phase ≠ .done r) : (s.move c' (.done r')).calls c = .done r ↔
      s.calls c = .done r ∨ .returned c r ∈ [Event.returned c' r'] := by
  rw [List.mem_singleton, Event.returned.injEq]
  by_cases same : c = c'
  · subst same
    rw [State.move_self, there, or_iff_right (before r), Phase.done.injEq, eq_comm, and_iff_right rfl]
  · rw [State.move_other same, or_iff_left fun returned => same returned.1]

theorem Transition.returned {r : Except TunnelError Unit} (h : Transition s a s' fs) :
    s'.calls c = .done r ↔ s.calls c = .done r ∨ .returned c r ∈ fs := by
  cases h with
  | arrived there | unnoticed there | willing there => exact State.move_open there nofun nofun nofun
  | asked there => exact State.move_open there nofun nofun (by simp)
  | flagged there =>
      exact State.move_open (s := { s with closeRequested := true }) there nofun nofun nofun
  | late there | deserted there | outlived there | disconnected there =>
      exact State.move_done there nofun
  | _ => simp

theorem returned_iff (reached : Reaches step (.start g) as s es) (c : CallId)
    (r : Except TunnelError Unit) : .returned c r ∈ es ↔ s.calls c = .done r := by
  induction reached with
  | refl => exact iff_of_false List.not_mem_nil nofun
  | snoc _ moved ih => rw [List.mem_append, ih, (Transition.of_step moved).returned]

theorem Transition.isNoticed (h : Transition s a s' fs) (noticed : s.handler.isNoticed = true) :
    s'.handler.isNoticed = true := by
  cases h with
  | going alive =>
      rw [alive] at noticed
      cases noticed
  | noticed | recorded => rfl
  | _ => exact noticed

theorem isNoticed_of_reached (reached : Reaches step s as s' es)
    (noticed : s.handler.isNoticed = true) : s'.handler.isNoticed = true := by
  induction reached with
  | refl => exact noticed
  | snoc _ moved ih => exact (Transition.of_step moved).isNoticed ih

/-- What is settled about the end of a transport. -/
structure Settled (g : String) (as : List Action) (s : State) (es : List Event) : Prop where
  /-- There is one request to disconnect at most, and it is that of the first call. -/
  once : asks es = [] ∨ ∃ c, first? as = some c ∧ asks es = [c]
  unseen : ∀ c ∈ asks es, ¬SawClosed g as c
  /-- Only the sight of a closed session keeps the first call from asking. -/
  asked : ∀ c r, first? as = some c → s.calls c = .done r →
    SawClosed g as c ∧ r = .ok () ∨ asks es = [c]
  /-- Every other call returns in its first step, and has nothing to wait for. -/
  others : ∀ first c, first? as = some first → c ≠ first → s.calls c = .absent ∨
    (s.calls c = .entered ∧ ∃ t, step s (.proceed c) = some (t, [.returned c (.ok ())])) ∨
    s.calls c = .done (.ok ())
  returned : ∀ c r, .returned c r ∈ es ↔ s.calls c = .done r
  closed : ∀ before after t fs, as = before ++ after → run (.start g) before = some (t, fs) →
    t.handler.isNoticed = true → s.isClosed = true
  /-- A handler that is gone has recorded one end, and whether a call had set the flag when it began to
  go. -/
  recorded : s.handler = .gone → ∃ before after byClient,
    as = before ++ .dropHandler :: after ∧ .dropHandler ∉ before ∧
    es.filterMap Event.logged? = [.transportClosed g byClient] ∧
    (byClient = true ↔ ∃ c, .proceed c ∈ before)
  /-- One that is not has recorded nothing, and nothing keeps it from going on. -/
  unrecorded : s.handler ≠ .gone → es.filterMap Event.logged? = [] ∧
    (step s .dropHandler).isSome = true

theorem settled_once (ran : run (.start g) as = some (s, es)) : Settled g as s es := by
  have reached := run_iff.1 ran
  have ordered := ordered_of_reached reached
  have led := ordered.led
  have traced := ordered.traced
  refine ⟨?_, ?_, ?_, ?_, returned_iff reached, ?_, ?_, ?_⟩
  · generalize first? as = first, asks es = asked at led
    cases led with
    | nobody => exact .inl rfl
    | @somebody c asked leads => exact leads.cases_asked.imp_right fun asked => ⟨c, rfl, asked.1⟩
  · generalize first? as = first, asks es = asked at led
    cases led with
    | nobody => nofun
    | somebody leads =>
        rcases leads.cases_asked with rfl | ⟨rfl, unseen⟩
        · nofun
        · intro c member
          rwa [List.mem_singleton.1 member]
  · intro c r isFirst done
    rw [isFirst] at led
    generalize asks es = asked at led
    cases led with
    | somebody leads =>
        rw [done] at leads
        cases leads with
        | answered => exact .inr rfl
        | excused saw => exact .inl ⟨saw, rfl⟩
  · intro first c isFirst other
    have flag : s.closeRequested = true := by rw [ordered.flag, isFirst, Option.isSome_some]
    rw [isFirst] at led
    cases led with
    | somebody _ follow =>
        have follows := follow c other
        generalize there : s.calls c = phase at follows
        cases follows with
        | absent => exact .inl rfl
        | entered =>
            refine .inr (.inl ⟨rfl, s.move c (.done (.ok ())), ?_⟩)
            simp only [step, there, flag, if_true]
            rfl
        | done => exact .inr (.inr rfl)
  · rintro before after t fs rfl earlier noticed
    -- The mark of the handler is never taken back.
    obtain ⟨t', fs', fs'', front, back, -⟩ := reached.append_inv
    obtain ⟨rfl, -⟩ := Prod.mk.inj (Option.some.inj (earlier.symm.trans (run_iff.2 front)))
    rw [State.isClosed, isNoticed_of_reached back noticed, Bool.true_or]
  · intro gone
    rw [gone] at traced
    generalize es.filterMap Event.logged? = records at traced
    cases traced with
    | @gone byClient began =>
        obtain ⟨before, after, whole, fresh, rfl⟩ := began
        exact ⟨before, after, _, whole, fresh, rfl, first?_isSome_iff⟩
  · intro left
    generalize es.filterMap Event.logged? = records at traced
    generalize there : s.handler = handler at traced left
    cases traced with
    | gone => exact absurd rfl left
    | _ => exact ⟨rfl, by simp [step, there]⟩

/-- Two calls of which the second is the first to set the flag. The handler has looked for the flag before
that and goes while the call looks for it, and the gateway does not hear the request any more. -/
def crossing : List Action :=
  [.arrive 0, .arrive 1, .dropHandler, .proceed 1, .proceed 1, .proceed 0, .dropHandler, .proceed 1,
    .proceed 1, .endSession, .dropHandler, .disconnectEnded 1 (.error .send)]

theorem settled_once_crossing : ∃ s es, run (.start "gw:22") crossing = some (s, es) ∧
    asks es = [1] ∧ es.filterMap Event.logged? = [.transportClosed "gw:22" false] ∧
    Settled "gw:22" crossing s es := by
  have ends : (run (.start "gw:22") crossing).any (fun last => asks last.2 = [1] ∧
      last.2.filterMap Event.logged? = [.transportClosed "gw:22" false]) = true := by decide +kernel
  obtain ⟨⟨s, es⟩, ran, shown⟩ := (Option.any_eq_true _ _).1 ends
  obtain ⟨asked, records⟩ := of_decide_eq_true shown
  exact ⟨s, es, ran, asked, records, settled_once ran⟩

end GatewayTunnel.Closing
