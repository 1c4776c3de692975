import GatewayTunnel.Proofs.Forwarding.Transition
import GatewayTunnel.Proofs.Request.Transition
import GatewayTunnel.Tunnel

namespace GatewayTunnel.Tunnel

open Manager (CallId TransportId)

variable {p : Plan} {s s' : State} {a : Action} {as : List Action} {es fs : List Event}
  {i : Nat} {b : Forwarding.Action} {c : CallId}

inductive Serves (p : Plan) (s : State) (i : Nat) (b : Forwarding.Action) :
    State → List Event → Prop where
  | intro {f : LocalForward} {x x' : Forwarding.State} {fs : List Forwarding.Event} :
      p.forwards[i]? = some f → s.forwards[i]? = some x → Forwarding.Transition f x b x' fs →
      Serves p s i b { s with forwards := s.forwards.set i x' } (fs.map (.forward i))

inductive Transition (p : Plan) (s : State) : Action → State → List Event → Prop where
  | served {i : Nat} {b : Forwarding.Action} {s' : State} {es : List Event} :
      (∀ c origin, b ≠ .accept c origin) → (∀ c r, b ≠ .returned c r) → Serves p s i b s' es →
      Transition p s (.forward i b) s' es
  | accepted {i : Nat} {c : CallId} {origin : String} {d : Destination} {s' : State}
      {es : List Event} : c ≠ closeCall → s.requests.requests c = .absent →
      Serves p s i (.accept c origin) s' es → .forward i (.requested c d) ∈ es →
      Transition p s (.forward i (.accept c origin))
        { s' with requests := s'.requests.move c (.routing d) } es
  | returned {i : Nat} {c : CallId} {r : Except TunnelError Unit} {s' : State} {es : List Event} :
      s.requests.requests c = .done r → Serves p s i (.returned c r) s' es →
      Transition p s (.returned i c) s' es
  | request {b : Request.Action} {m : Request.State} {es : List Request.Event} :
      isInner b = true → Request.step p.gateway s.requests b = some (m, es) →
      Transition p s (.request b) { s with requests := m } (es.map .request)
  | interrupt : s.phase = .serving →
      Transition p s .interrupt { s.cancel with phase := .stopping }
        [.logged (.program "Shutting down")]
  | close : s.phase = .stopping → (∀ x ∈ s.forwards, x.phase = .done) →
      s.requests.manager.calls closeCall = .absent →
      Transition p s .proceed { s with phase := .closing, requests :=
        { s.requests with manager := s.requests.manager.move closeCall (.asking .close) } } []
  | finish {r : Except TunnelError Unit} : s.phase = .closing →
      s.requests.manager.calls closeCall = .done (.closed r) →
      Transition p s .proceed { s with phase := .done r } [.ended r]

theorem ne_arrive_of_isInner {b : Request.Action} (inner : isInner b = true) :
    (∀ c d, b ≠ .arrive c d) ∧ ∀ c goal, b ≠ .manager (.arrive c goal) := by
  constructor
  · rintro c d rfl
    cases inner
  · rintro c goal rfl
    cases inner

theorem Serves.of_serve (h : s.serve p i b = some (s', es)) : Serves p s i b s' es := by
  simp only [State.serve, Option.bind_eq_bind, Option.bind_eq_some_iff] at h
  obtain ⟨f, planned, x, place, ⟨x', fs⟩, moved, rfl, rfl⟩ := h
  exact .intro planned place (.of_step moved)

theorem Serves.requests (h : Serves p s i b s' es) : s'.requests = s.requests := by
  cases h
  rfl

theorem Transition.of_accept {origin : String} (h : s.accept p i c origin = some (s', es)) :
    Transition p s (.forward i (.accept c origin)) s' es := by
  simp only [State.accept, Option.bind_eq_bind, Option.bind_eq_some_iff] at h
  obtain ⟨f, planned, h⟩ := h
  split at h
  · cases h
  · rename_i other
    simp only [State.request, Option.bind_eq_bind, Option.bind_eq_some_iff] at h
    obtain ⟨⟨s₁, fs⟩, served, ⟨s₂, more⟩, ⟨⟨m, told⟩, made, rfl, rfl⟩, rfl, rfl⟩ := h
    have serves := Serves.of_serve served
    have same := serves.requests
    cases phase : s₁.requests.requests c <;> simp only [Request.step, phase] at made <;> cases made
    rw [List.map_nil, List.append_nil]
    refine .accepted other (by rw [← same, phase]) serves ?_
    cases serves with
    | intro planned' place moved =>
        obtain rfl := Option.some.inj (planned.symm.trans planned')
        cases moved
        exact List.mem_singleton_self _

theorem Transition.of_close (phase : s.phase = .stopping) (all : ∀ x ∈ s.forwards, x.phase = .done)
    (h : ({ s with phase := .closing }).request p (.manager (.arrive closeCall .close)) =
      some (s', es)) : Transition p s .proceed s' es := by
  simp only [State.request, Request.step, Request.State.manage, Option.bind_eq_bind,
    Option.bind_eq_some_iff, Option.map_eq_some_iff] at h
  obtain ⟨⟨m, told⟩, ⟨⟨manager, shown⟩, called, rfl, rfl⟩, rfl, rfl⟩ := h
  cases place : s.requests.manager.calls closeCall with
  | absent =>
      simp only [Manager.step, place, Option.some.injEq, Prod.mk.injEq] at called
      obtain ⟨rfl, rfl⟩ := called
      exact .close phase all place
  | _ => simp [Manager.step, place] at called

theorem Transition.of_step (h : step p s a = some (s', es)) : Transition p s a s' es := by
  cases a with
  | forward i b =>
      cases b with
      | accept c origin => exact .of_accept h
      | cancel | returned => cases h
      | start | stop | acceptFailed | reap | finish => exact .served nofun nofun (.of_serve h)
  | returned i c =>
      cases phase : s.requests.requests c <;> simp only [step, phase] at h
      case done r => exact .returned phase (.of_serve h)
      all_goals cases h
  | request b =>
      simp only [step] at h
      split at h
      · rename_i inner
        simp only [State.request, Option.bind_eq_bind, Option.bind_eq_some_iff] at h
        obtain ⟨⟨m, told⟩, moved, rfl, rfl⟩ := h
        exact .request inner moved
      · cases h
  | interrupt =>
      cases phase : s.phase <;> simp only [step, phase] at h <;> cases h
      exact .interrupt phase
  | proceed =>
      cases phase : s.phase <;> simp only [step, phase] at h
      case stopping =>
        split at h
        · rename_i all
          exact .of_close phase (by simpa using all) h
        · cases h
      case closing =>
        split at h
        · rename_i closed
          cases h
          exact .finish phase closed
        · cases h
      all_goals cases h

/-! ## The requests -/

namespace Event

def request? : Event → Option Request.Event
  | request e => some e
  | _ => none

def manager? (e : Event) : Option Manager.Event :=
  e.request?.bind (·.manager?)

end Event

theorem Serves.unrequested (h : Serves p s i b s' es) : es.filterMap Event.request? = [] := by
  cases h
  simp [List.filterMap_map, Function.comp_def, Event.request?]

theorem Transition.requests (h : Transition p s a s' es) :
    (s'.requests = s.requests ∧ es.filterMap Event.request? = []) ∨
      ∃ b, Request.step p.gateway s.requests b = some (s'.requests, es.filterMap Event.request?) ∧
        ∀ c goal, b = .manager (.arrive c goal) → c = closeCall := by
  cases h with
  | served _ _ serves => exact .inl ⟨serves.requests, serves.unrequested⟩
  | @accepted i c origin d s' es _ absent serves =>
      refine .inr ⟨.arrive c d, ?_, nofun⟩
      rw [serves.unrequested, serves.requests]
      simp only [Request.step, absent]
  | returned _ serves => exact .inl ⟨serves.requests, serves.unrequested⟩
  | @request b m es inner moved =>
      refine .inr ⟨b, ?_, fun c goal arrives => ?_⟩
      · rw [moved]
        simp [List.filterMap_map, Function.comp_def, Event.request?]
      · exact absurd arrives ((ne_arrive_of_isInner inner).2 c goal)
  | interrupt => exact .inl ⟨rfl, rfl⟩
  | close _ _ absent =>
      refine .inr ⟨.manager (.arrive closeCall .close), ?_, ?_⟩
      · simp [Request.step, Request.State.manage, Manager.step, absent]
      · rintro c goal ⟨⟩
        rfl
  | finish => exact .inl ⟨rfl, rfl⟩

/-! ## Runs -/

abbrev Reached (p : Plan) : List Action → State → List Event → Prop :=
  Reaches (step p) (.start p)

theorem run_iff : run p s as = some (s', es) ↔ Reaches (step p) s as s' es :=
  reaches_iff (fun _ => rfl) fun s a as => by
    simp only [run, Option.bind_eq_bind, Option.map_eq_bind]
    rfl

theorem exists_requested (reached : Reached p as s es) :
    ∃ bs, Request.Reached p.gateway bs s.requests (es.filterMap Event.request?) ∧
      ∀ c goal, .manager (.arrive c goal) ∈ bs → c = closeCall := by
  induction reached with
  | refl => exact ⟨[], .refl, nofun⟩
  | snoc before moved ih =>
      obtain ⟨bs, requested, own⟩ := ih
      rw [List.filterMap_append]
      rcases (Transition.of_step moved).requests with ⟨same, unseen⟩ | ⟨b, step, arrives⟩
      · rw [same, unseen, List.append_nil]
        exact ⟨bs, requested, own⟩
      · refine ⟨bs ++ [b], requested.snoc step, fun c goal member => ?_⟩
        rcases List.mem_append.1 member with old | new
        · exact own c goal old
        · exact arrives c goal (List.mem_singleton.1 new).symm

end GatewayTunnel.Tunnel
