import GatewayTunnel.Proofs.Trail.Transition

namespace GatewayTunnel

/-- The identities differ in the secrets of their methods only. -/
structure Identity.Alike (i i' : Identity) : Prop where
  username : i.username = i'.username
  methods : i.methods.map AuthMethod.name = i'.methods.map AuthMethod.name
  verifier : i.verifier = i'.verifier

theorem AuthMethod.shown_of_name {m m' : AuthMethod} (same : m.name = m'.name) :
    m.shown = m'.shown := by
  cases m <;> cases m' <;> simp_all [AuthMethod.name, AuthMethod.shown]

theorem AuthMethod.map_shown {ms ms' : List AuthMethod}
    (same : ms.map AuthMethod.name = ms'.map AuthMethod.name) :
    ms.map AuthMethod.shown = ms'.map AuthMethod.shown := by
  induction ms generalizing ms' with
  | nil =>
      rw [List.map_eq_nil_iff.1 same.symm]
  | cons m ms ih =>
      cases ms' with
      | nil => cases same
      | cons m' ms' =>
          obtain ⟨first, others⟩ := List.cons.inj same
          rw [List.map_cons, List.map_cons, AuthMethod.shown_of_name first, ih others]

theorem Identity.Alike.isEmpty {i i' : Identity} (alike : i.Alike i') :
    i.methods.isEmpty = i'.methods.isEmpty := by
  rw [← List.isEmpty_map (f := AuthMethod.name), alike.methods, List.isEmpty_map]

theorem Identity.Alike.shown {i i' : Identity} (alike : i.Alike i') : i.shown = i'.shown := by
  simp only [Identity.shown, alike.username, alike.verifier, AuthMethod.map_shown alike.methods]

namespace Connection

variable {i i' : Identity} {gateway : String} {p : Peer} {events events' : List Event}

def Event.veiled : Event → Option Event
  | offered _ => none
  | e => some e

def veiledLogin (events : List Login.Event) : List (Option Event) :=
  events.map fun e => (Event.ofLogin e).veiled

theorem veiledLogin_append {events events' : List Login.Event} :
    veiledLogin (events ++ events') = veiledLogin events ++ veiledLogin events' :=
  List.map_append

theorem tryMethods_alike {a : Login.Account} {answers : Nat → Login.Answer} {k : Nat}
    {ms ms' : List AuthMethod} (same : ms.map AuthMethod.name = ms'.map AuthMethod.name) :
    (a.tryMethods answers k ms).1 = (a.tryMethods answers k ms').1 ∧
      veiledLogin (a.tryMethods answers k ms).2 = veiledLogin (a.tryMethods answers k ms').2 := by
  induction ms generalizing ms' k with
  | nil =>
      rw [List.map_eq_nil_iff.1 same.symm]
      exact ⟨rfl, rfl⟩
  | cons m ms ih =>
      cases ms' with
      | nil => cases same
      | cons m' ms' =>
          obtain ⟨first, others⟩ := List.cons.inj same
          have attempt : veiledLogin (a.attempt (.method m)) = veiledLogin (a.attempt (.method m')) := by
            simp [veiledLogin, Login.Account.attempt, Login.Offer.name, first, Event.ofLogin,
              Event.veiled]
          have success : a.success (.method m) = a.success (.method m') := by
            simp [Login.Account.success, Login.Offer.name, first]
          have failure (reason : String) :
              a.failure (.method m) reason = a.failure (.method m') reason := by
            simp [Login.Account.failure, Login.Offer.name, first]
          obtain ⟨result, rest⟩ := ih (k := k + 1) others
          rw [Login.Account.tryMethods_cons, Login.Account.tryMethods_cons]
          cases answers k with
          | accepted => simp only [veiledLogin_append, attempt, success, and_self]
          | rejected => simp only [veiledLogin_append, attempt, failure, result, rest, and_self]
          | failed reason => simp only [veiledLogin_append, attempt, failure, and_self]

theorem loginRun_alike (gateway : String) (answers : Nat → Login.Answer) (alike : i.Alike i') :
    (Login.run i gateway answers).1 = (Login.run i' gateway answers).1 ∧
      veiledLogin (Login.run i gateway answers).2 = veiledLogin (Login.run i' gateway answers).2 := by
  unfold Login.run
  rw [alike.username, alike.isEmpty]
  split
  · exact ⟨rfl, rfl⟩
  · exact tryMethods_alike alike.methods

theorem withEnd_alike {failed : Bool} (same : events.map Event.veiled = events'.map Event.veiled) :
    (withEnd gateway p failed events).map Event.veiled =
      (withEnd gateway p failed events').map Event.veiled := by
  have length : events.length = events'.length := by
    rw [← List.length_map Event.veiled, same, List.length_map]
  have last : (if failed then events ++ [closed gateway] else events).map Event.veiled =
      (if failed then events' ++ [closed gateway] else events').map Event.veiled := by
    split
    · rw [List.map_append, List.map_append, same]
    · exact same
  unfold withEnd
  rw [length]
  split
  · split
    · simp only [List.map_append, List.map_cons, List.map_take, List.map_drop, same]
    · exact last
  · exact last

theorem login_alike (gateway : String) (p : Peer) (alike : i.Alike i') : (login i gateway p).1 = (login i' gateway p).1 ∧
    (login i gateway p).2.map Event.veiled = (login i' gateway p).2.map Event.veiled := by
  obtain ⟨result, events⟩ := loginRun_alike gateway p.answers alike
  have events : ((Login.run i gateway p.answers).2.map Event.ofLogin).map Event.veiled =
      ((Login.run i' gateway p.answers).2.map Event.ofLogin).map Event.veiled := by
    rw [List.map_map, List.map_map]
    exact events
  unfold login
  cases first : (Login.run i gateway p.answers).1 with
  | ok u =>
      have second := result.symm.trans first
      simp only [first, second, true_and]
      apply withEnd_alike
      rw [List.map_append, List.map_append, events, alike.username]
  | error e =>
      have second := result.symm.trans first
      simp only [first, second, true_and]
      exact withEnd_alike events

theorem run_alike (gateway : String) (p : Peer) (alike : i.Alike i') : (run i gateway p).1 = (run i' gateway p).1 ∧
    (run i gateway p).2.map Event.veiled = (run i' gateway p).2.map Event.veiled := by
  obtain ⟨result, events⟩ := login_alike gateway p alike
  unfold run verdict
  rw [alike.verifier]
  split
  · exact ⟨rfl, rfl⟩
  · simp only [result, List.map_append, events, and_self]

theorem filterMap_log? {observes : Bool} :
    events.filterMap (Event.log? observes) =
      (events.map Event.veiled).filterMap fun e => e.bind (Event.log? observes) := by
  rw [List.filterMap_map]
  congr 1
  funext e
  cases e <;> rfl

theorem closed_mem_veiled : closed gateway ∈ events ↔
    some (closed gateway) ∈ events.map Event.veiled := by
  refine ⟨fun member => List.mem_map.2 ⟨_, member, rfl⟩, fun member => ?_⟩
  obtain ⟨e, member, same⟩ := List.mem_map.1 member
  cases e with
  | offered => cases same
  | reported => cases same
  | logged => cases same; exact member

end Connection

namespace Trail

variable {i i' : Identity} {gateway : String} {observes : Bool} {p : Connection.Peer}

theorem Connector.alike (alike : i.Alike i') :
    (Connector.mk i gateway observes).records p = (Connector.mk i' gateway observes).records p ∧
      (Connector.mk i gateway observes).outcome p = (Connector.mk i' gateway observes).outcome p := by
  obtain ⟨result, events⟩ := Connection.run_alike gateway p alike
  have early : (Connector.mk i gateway observes).endsEarly p =
      (Connector.mk i' gateway observes).endsEarly p := by
    simp only [endsEarly, run, Connection.closed_mem_veiled, events]
  refine ⟨?_, ?_⟩
  · simp only [records, run, Connection.filterMap_log?, events]
  · simp only [outcome, transport, early, run, result]

def Action.through (c : Connector) : Action → Action
  | .connect n _ p => .connect n c p
  | a => a

theorem run_through {c c' : Connector}
    (same : ∀ p, c.records p = c'.records p ∧ c.outcome p = c'.outcome p) (s : State)
    (as : List Action) : run s (as.map (.through c)) = run s (as.map (.through c')) := by
  have steps (s : State) (a : Action) : step s (a.through c) = step s (a.through c') := by
    cases a with
    | connect n _ p => simp only [Action.through, step, same p]
    | proceed | transport => rfl
  induction as generalizing s with
  | nil => rfl
  | cons a as ih => simp only [List.map_cons, run, steps, ih]

end Trail

end GatewayTunnel
