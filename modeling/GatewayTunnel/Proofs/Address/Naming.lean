import GatewayTunnel.Dialer
import GatewayTunnel.Proofs.Address.Reading
import GatewayTunnel.Proofs.Secrecy.Views
import GatewayTunnel.Proofs.Trail.Paired

namespace GatewayTunnel

variable {a b : Address} {front front' back back' : List Char}

namespace Address

theorem append_colon_inj (last : ':' ∉ back) (last' : ':' ∉ back') :
    front ++ ':' :: back = front' ++ ':' :: back' ↔ front = front' ∧ back = back' := by
  constructor
  · intro same
    rcases List.append_eq_append_iff.1 same with ⟨between, rfl, rest⟩ | ⟨between, rfl, rest⟩
    · cases between with
      | nil => exact ⟨(List.append_nil front).symm, (List.cons.inj rest).2⟩
      | cons c between =>
          obtain ⟨-, rfl⟩ := List.cons.inj rest
          simp at last
    · cases between with
      | nil => exact ⟨List.append_nil front', (List.cons.inj rest).2.symm⟩
      | cons c between =>
          obtain ⟨-, rfl⟩ := List.cons.inj rest
          simp at last'
  · rintro ⟨rfl, rfl⟩
    rfl

def writtenHost (a : Address) : List Char :=
  if ':' ∈ a.host.toList then '[' :: (a.host.toList ++ [']']) else a.host.toList

theorem renderChars_eq (a : Address) :
    a.renderChars = a.writtenHost ++ ':' :: Text.Numeral.digits a.port.toNat := by
  simp [renderChars, writtenHost]

theorem colon_not_mem_digits (n : Nat) : ':' ∉ Text.Numeral.digits n := fun member =>
  absurd (Text.Numeral.isDigit_of_mem_digits member) (by decide)

theorem writtenHost_inj : a.writtenHost = b.writtenHost ↔ a.host = b.host := by
  rw [← String.toList_inj]
  constructor
  · intro same
    unfold writtenHost at same
    split at same <;> split at same
    · simpa using same
    · -- A form in brackets keeps the colon of its host, and the other one has none.
      rename_i colon bare
      rw [← same] at bare
      simp [colon] at bare
    · rename_i bare colon
      rw [same] at bare
      simp [colon] at bare
    · exact same
  · intro same
    rw [writtenHost, writtenHost, same]

theorem digits_toNat_inj {p q : UInt16} :
    Text.Numeral.digits p.toNat = Text.Numeral.digits q.toNat ↔ p = q := by
  constructor
  · intro same
    have read := read_port p
    rw [same, read_port q] at read
    exact (UInt16.toNat_inj.1 (Option.some.inj read)).symm
  · rintro rfl
    rfl

theorem render_inj : a.render = b.render ↔ a = b := by
  rw [render, render, String.ofList_inj, renderChars_eq, renderChars_eq,
    append_colon_inj (colon_not_mem_digits _) (colon_not_mem_digits _), writtenHost_inj,
    digits_toNat_inj, Address.mk.injEq]

end Address

/-! ## Records -/

def AuditEvent.gateway : AuditEvent → String
  | authAttempt gateway _ _ | authSuccess gateway _ _ | authFailure gateway _ _ _ => gateway
  | hostKeyPresented gateway _ _ | hostKeyRejected gateway _ _ => gateway
  | transportEstablished gateway _ | transportClosed gateway _ => gateway

variable {gateway : String} {i : Identity} {record : AuditEvent}

namespace Login

variable {account : Account} {answers : Nat → Answer} {k : Nat} {methods : List AuthMethod}

theorem gateway_of_mem_tryMethods
    (member : .logged record ∈ (account.tryMethods answers k methods).2) :
    record.gateway = account.gateway := by
  induction methods generalizing k with
  | nil => cases member
  | cons m rest ih =>
      rw [Account.tryMethods_cons] at member
      cases answer : answers k with
      | accepted =>
          simp only [answer, Account.attempt, Account.success, List.mem_append, List.mem_cons,
            Event.logged.injEq, List.not_mem_nil, or_false, reduceCtorEq] at member
          rcases member with rfl | rfl <;> rfl
      | failed reason =>
          simp only [answer, Account.attempt, Account.failure, List.mem_append, List.mem_cons,
            Event.logged.injEq, List.not_mem_nil, or_false, reduceCtorEq] at member
          rcases member with rfl | rfl <;> rfl
      | rejected =>
          simp only [answer, Account.attempt, Account.failure, List.mem_append, List.mem_cons,
            Event.logged.injEq, List.not_mem_nil, or_false, reduceCtorEq] at member
          rcases member with (rfl | rfl) | later
          · rfl
          · rfl
          · exact ih later

theorem gateway_of_mem_run (member : .logged record ∈ (run i gateway answers).2) :
    record.gateway = gateway := by
  unfold run at member
  split at member
  · cases answer : answers 0 <;>
      simp only [answer, Account.tryNothing, Account.attempt, Account.success, Account.failure,
        List.mem_append, List.mem_cons, Event.logged.injEq, List.not_mem_nil, or_false,
        reduceCtorEq] at member <;>
      rcases member with rfl | rfl <;> rfl
  · exact gateway_of_mem_tryMethods member

end Login

namespace Connection

variable {p : Peer} {events : List Event} {event : Event}

def Event.Names (gateway : String) (event : Event) : Prop :=
  ∀ observes record, event.log? observes = some record → record.gateway = gateway

theorem names_closed : (closed gateway).Names gateway := by
  rintro observes record ⟨⟩
  rfl

theorem names_of_mem_reports (member : event ∈ reports i gateway p) : event.Names gateway := by
  obtain ⟨key, -, member⟩ := List.mem_flatMap.1 member
  obtain ⟨report, shown, rfl⟩ := List.mem_map.1 member
  have named : (AuditEvent.ofTrust report).gateway = gateway := by
    rw [verdict] at shown
    rcases i.verifier.verify_cases gateway key with ⟨-, verdict⟩ | ⟨-, -, verdict⟩ | ⟨-, -, verdict⟩
    · rw [verdict, List.mem_singleton] at shown
      rw [shown]
      rfl
    · rw [verdict] at shown
      cases shown
    · rw [verdict, List.mem_singleton] at shown
      rw [shown]
      rfl
  intro observes record recorded
  cases observes with
  | false => cases recorded
  | true => exact Option.some.inj recorded ▸ named

theorem names_of_mem_withEnd {failed : Bool} (named : ∀ event ∈ events, event.Names gateway)
    (member : event ∈ withEnd gateway p failed events) : event.Names gateway := by
  obtain ⟨front, back, rfl, same | more⟩ := withEnd_cases gateway p failed events
  · exact named event (same ▸ member)
  · rw [more, List.mem_append, List.mem_cons] at member
    rcases member with before | rfl | after
    · exact named event (List.mem_append_left _ before)
    · exact names_closed
    · exact named event (List.mem_append_right _ after)

theorem names_of_mem_login (member : event ∈ (login i gateway p).2) : event.Names gateway := by
  have attempts : ∀ event ∈ (Login.run i gateway p.answers).2.map Event.ofLogin,
      event.Names gateway := by
    intro event member observes record recorded
    obtain ⟨inner, inLogin, rfl⟩ := List.mem_map.1 member
    cases inner with
    | logged logged => exact Login.gateway_of_mem_run (Option.some.inj recorded ▸ inLogin)
    | offered => cases recorded
  unfold login at member
  cases result : (Login.run i gateway p.answers).1 with
  | error e =>
      simp only [result] at member
      exact names_of_mem_withEnd attempts member
  | ok u =>
      simp only [result] at member
      refine names_of_mem_withEnd (fun event member => ?_) member
      rcases List.mem_append.1 member with attempt | last
      · exact attempts event attempt
      · rw [List.mem_singleton.1 last]
        rintro observes record ⟨⟩
        rfl

theorem names_of_mem_run (member : event ∈ (run i gateway p).2) : event.Names gateway := by
  rcases run_cases i gateway p with ⟨e, -, ended⟩ | ⟨-, ended⟩
  · rw [ended, List.mem_append, List.mem_singleton] at member
    rcases member with reported | rfl
    · exact names_of_mem_reports reported
    · exact names_closed
  · rw [ended, List.mem_append] at member
    rcases member with reported | later
    · exact names_of_mem_reports reported
    · exact names_of_mem_login later

end Connection

namespace Trail

variable {as : List Action} {s : State} {es : List Event} {n : ConnectionId} {c : Connector}
  {p : Connection.Peer}

theorem Connector.gateway_of_mem_records (member : record ∈ c.records p) :
    record.gateway = c.gateway := by
  obtain ⟨event, shown, recorded⟩ := List.mem_filterMap.1 member
  exact Connection.names_of_mem_run shown c.observesKeys record recorded

theorem gateway_of_mem_log (ran : run .start as = some (s, es)) (begun : .connect n c p ∈ as)
    (member : record ∈ log n es) : record.gateway = c.gateway := by
  have traced := traced_of_reached (run_iff.1 ran) n
  generalize s n = phase, log n es = records at member traced
  cases traced with
  | absent never => exact absurd begun (never c p)
  | connecting only whole =>
      obtain ⟨rfl, rfl⟩ := only c p begun
      exact Connector.gateway_of_mem_records (whole ▸ List.mem_append_left _ member)
  | failed only | connected only =>
      obtain ⟨rfl, rfl⟩ := only c p begun
      exact Connector.gateway_of_mem_records member
  | closed only =>
      obtain ⟨rfl, rfl⟩ := only c p begun
      rcases List.mem_append.1 member with before | last
      · exact Connector.gateway_of_mem_records before
      · rw [List.mem_singleton.1 last]
        rfl

end Trail

/-! ## Texts -/

theorem Dialer.timedOut_message_inj :
    (timedOut a).message = (timedOut b).message ↔ a = b := by
  show "timeout connecting to " ++ a.render = "timeout connecting to " ++ b.render ↔ a = b
  rw [String.append_right_inj, Address.render_inj]

theorem TunnelError.connect_message_inj {source : RetryError IoError} :
    (connect a.render source).message = (connect b.render source).message ↔ a = b := by
  show "failed to connect to destination " ++ a.render ++ ": " ++ _ =
    "failed to connect to destination " ++ b.render ++ ": " ++ _ ↔ a = b
  rw [String.append_left_inj, String.append_left_inj, String.append_right_inj, Address.render_inj]

/-- Destinations and gateways are written alike only if they have the same host and port, whatever
characters the hosts have. An error that names its gateway has another text for another gateway, and what
is recorded of a connection is not recorded of one to another gateway. -/
theorem written_apart (a b : Address) :
    (∀ n m, Destination.render ⟨n, a⟩ = Destination.render ⟨m, b⟩ ↔
      a.host = b.host ∧ a.port = b.port) ∧
    (a.render = b.render ↔ a.host = b.host ∧ a.port = b.port) ∧
    (∀ n, Destination.render ⟨n, a⟩ = b.render ↔ a.host = b.host ∧ a.port = b.port) ∧
    ((Dialer.timedOut a).message = (Dialer.timedOut b).message ↔ a = b) ∧
    (∀ source, (TunnelError.connect a.render source).message =
      (TunnelError.connect b.render source).message ↔ a = b) ∧
    ∀ (o o' : Outbound) as s es n m p q record, o.gateway.endpoint = a → o'.gateway.endpoint = b →
      Trail.run .start as = some (s, es) →
      .connect n o.connector p ∈ as → .connect m o'.connector q ∈ as →
      record ∈ Trail.log n es → record ∈ Trail.log m es → a = b := by
  have same : a.render = b.render ↔ a.host = b.host ∧ a.port = b.port := by
    rw [Address.render_inj, Address.mk.injEq]
  refine ⟨fun n m => same, same, fun n => same, Dialer.timedOut_message_inj,
    fun source => TunnelError.connect_message_inj, ?_⟩
  rintro o o' as s es n m p q record rfl rfl ran begun begun' here there
  apply Address.render_inj.1
  exact (Trail.gateway_of_mem_log ran begun here).symm.trans (Trail.gateway_of_mem_log ran begun' there)

end GatewayTunnel
