import GatewayTunnel.Proofs.Trail.Records
import GatewayTunnel.Proofs.Trail.Transition

/-!
# Transports and their ends in the audit log

The end of a session is recorded once, whether or not the session was recorded as a transport before. So
each recorded end comes after a recorded transport if the session has lasted until the connection worked;
a connection that fails records an end that belongs to no transport. This is `transports_recorded`.
-/

namespace GatewayTunnel.Trail

variable {s s' : State} {a : Action} {as : List Action} {es fs : List Event} {n m : ConnectionId}
  {phase : Phase} {c : Connector} {p : Connection.Peer} {records : List AuditEvent}

/-- Each end in a log comes after one transport and no other end. -/
def Paired (records : List AuditEvent) : Prop :=
  ∀ front e back, records = front ++ e :: back → e.isClosed = true →
    front.countP AuditEvent.isClosed = 0 ∧ front.countP AuditEvent.isEstablished = 1

def Begun (as : List Action) (n : ConnectionId) (c : Connector) (p : Connection.Peer) : Prop :=
  ∀ c' p', .connect n c' p' ∈ as → c' = c ∧ p' = p

inductive Traced (as : List Action) (n : ConnectionId) : Phase → List AuditEvent → Prop where
  | absent : (∀ c p, .connect n c p ∉ as) → Traced as n .absent []
  | connecting {c : Connector} {p : Connection.Peer} {rest records : List AuditEvent}
      {r : Except TunnelError Transport.State} :
      Begun as n c p → records ++ rest = c.records p → c.outcome p = r →
      Traced as n (.connecting rest r) records
  | failed {c : Connector} {p : Connection.Peer} {e : TunnelError} : Begun as n c p →
      (c.run p).1 = .error e → Traced as n (.failed e) (c.records p)
  | connected {c : Connector} {p : Connection.Peer} {t : Transport.State} : Begun as n c p →
      (c.run p).1 = .ok () → t.gateway = c.gateway → t.handlerGone = c.endsEarly p →
      Traced as n (.connected t) (c.records p)
  | closed {c : Connector} {p : Connection.Peer} {t : Transport.State} {byClient : Bool} :
      Begun as n c p → (c.run p).1 = .ok () → t.gateway = c.gateway → c.endsEarly p = false →
      t.handlerGone = true →
      Traced as n (.connected t) (c.records p ++ [.transportClosed c.gateway byClient])

namespace Traced

theorem snoc (traced : Traced as n phase records) (other : ∀ c p, a ≠ .connect n c p) :
    Traced (as ++ [a]) n phase records := by
  have same {c : Connector} {p : Connection.Peer} : .connect n c p ∈ as ++ [a] ↔ .connect n c p ∈ as := by
    rw [List.mem_append, List.mem_singleton, or_iff_left]
    exact (other c p).symm
  have begun {c : Connector} {p : Connection.Peer} (begun : Begun as n c p) : Begun (as ++ [a]) n c p :=
    fun c' p' member => begun c' p' (same.1 member)
  cases traced with
  | absent none => exact .absent fun c p member => none c p (same.1 member)
  | connecting only whole outcome => exact .connecting (begun only) whole outcome
  | failed only fails => exact .failed (begun only) fails
  | connected only works gateway gone => exact .connected (begun only) works gateway gone
  | closed only works gateway late gone => exact .closed (begun only) works gateway late gone

theorem connect (traced : Traced as n .absent records) :
    Traced (as ++ [.connect n c p]) n (.connecting (c.records p) (c.outcome p)) records := by
  cases traced with
  | absent none =>
      refine .connecting (fun c' p' member => ?_) rfl rfl
      rcases List.mem_append.1 member with old | new
      · exact absurd old (none c' p')
      · cases List.mem_singleton.1 new
        exact ⟨rfl, rfl⟩

theorem works {t : Transport.State} (traced : Traced as n (.connecting [] (.ok t)) records) :
    Traced as n (.connected t) records := by
  cases traced with
  | connecting only whole outcome =>
      obtain ⟨works, rfl⟩ := Connector.outcome_eq_ok_iff.1 outcome
      rw [List.append_nil] at whole
      exact whole ▸ .connected only works rfl rfl

theorem fails {e : TunnelError} (traced : Traced as n (.connecting [] (.error e)) records) :
    Traced as n (.failed e) records := by
  cases traced with
  | connecting only whole outcome =>
      rw [List.append_nil] at whole
      exact whole ▸ .failed only (Connector.outcome_eq_error_iff.1 outcome)

theorem transport {t t' : Transport.State} {b : Transport.Action} {events : List Transport.Event}
    (traced : Traced as n (.connected t) records) (h : Transport.Transition t b t' events) :
    Traced as n (.connected t') (records ++ events.filterMap Transport.Event.logged?) := by
  obtain ⟨still, ⟨silent, same⟩ | ⟨closed, there, gone⟩⟩ := h.records
  · rw [silent, List.append_nil]
    cases traced with
    | connected only works gateway gone =>
        exact .connected only works (still.trans gateway) (same.trans gone)
    | closed only works gateway late gone =>
        exact .closed only works (still.trans gateway) late (same.trans gone)
  · rw [closed]
    cases traced with
    | connected only works gateway same =>
        rw [gateway]
        exact .closed only works (still.trans gateway) (same.symm.trans there) gone
    | closed _ _ _ _ already =>
        rw [already] at there
        cases there

theorem step (traced : ∀ n, Traced as n (s n) (log n es)) (h : Transition s a s' fs) :
    ∀ n, Traced (as ++ [a]) n (s' n) (log n (es ++ fs)) := by
  intro m
  rw [log_append]
  by_cases about : m = a.about
  · have now := traced m
    generalize log m es = records at now
    cases h with
    | @connect n c p absent =>
        obtain rfl : m = n := about
        rw [absent] at now
        rw [State.move_self]
        exact (List.append_nil records).symm ▸ now.connect
    | @recorded n e rest r connecting =>
        obtain rfl : m = n := about
        rw [connecting] at now
        refine snoc ?_ (by simp)
        rw [State.move_self]
        cases now with
        | connecting only whole outcome =>
            exact .connecting only (by simpa [log] using whole) outcome
    | @works n t connecting =>
        obtain rfl : m = n := about
        rw [connecting] at now
        refine snoc ?_ (by simp)
        rw [State.move_self]
        exact (List.append_nil records).symm ▸ now.works
    | @fails n e connecting =>
        obtain rfl : m = n := about
        rw [connecting] at now
        refine snoc ?_ (by simp)
        rw [State.move_self]
        exact (List.append_nil records).symm ▸ now.fails
    | @moved n t t' b events connected moved =>
        obtain rfl : m = n := about
        rw [connected] at now
        refine snoc ?_ (by simp)
        rw [State.move_self, log_ofTransport]
        exact now.transport (.of_step moved)
  · obtain ⟨there, silent⟩ := h.other about
    rw [there, silent, List.append_nil]
    refine (traced m).snoc ?_
    rintro c p rfl
    exact about rfl

end Traced

theorem traced_of_reached (reached : Reaches step .start as s es) :
    ∀ n, Traced as n (s n) (log n es) := by
  induction reached with
  | refl => exact fun _ => .absent fun _ _ => List.not_mem_nil
  | snoc _ moved ih => exact Traced.step ih (.of_step moved)

/-! ## Logs -/

theorem countP_established_records : (c.records p).countP AuditEvent.isEstablished ≤ 1 := by
  rw [List.countP_eq_length_filter, Connector.established_records]
  split <;> simp

theorem countP_closed_records :
    (c.records p).countP AuditEvent.isClosed = if c.endsEarly p then 1 else 0 := by
  rw [List.countP_eq_length_filter, Connector.closed_records]
  split <;> rfl

theorem paired_of_none (none : records.countP AuditEvent.isClosed = 0) : Paired records := by
  rintro front e back rfl closed
  exact absurd closed (List.countP_eq_zero.1 none e (by simp))

theorem paired_concat {e : AuditEvent} (none : records.countP AuditEvent.isClosed = 0)
    (one : records.countP AuditEvent.isEstablished = 1) : Paired (records ++ [e]) := by
  intro front x back split closed
  rcases List.eq_nil_or_concat back with rfl | ⟨back, y, rfl⟩
  · obtain ⟨rfl, -⟩ := List.append_inj' split rfl
    exact ⟨none, one⟩
  · rw [List.concat_eq_append, ← List.cons_append, ← List.append_assoc] at split
    obtain ⟨rfl, -⟩ := List.append_inj' split rfl
    exact absurd closed (List.countP_eq_zero.1 none x (by simp))

/-- What is recorded of a connection. -/
structure Recorded (as : List Action) (n : ConnectionId) (records : List AuditEvent) : Prop where
  once : records.countP AuditEvent.isEstablished ≤ 1 ∧ records.countP AuditEvent.isClosed ≤ 1
  /-- The connection works, and the session lasts until it does. -/
  lasting : ∀ c p, .connect n c p ∈ as → (c.run p).1 = .ok () → c.endsEarly p = false →
    Paired records
  /-- The session ends before. -/
  early : ∀ c p, .connect n c p ∈ as → c.endsEarly p = true → records <+: c.records p ∧
    (c.records p).filter AuditEvent.isClosed = [.transportClosed c.gateway false]
  /-- A connection that fails records an end all the same, but no transport. -/
  failed : ∀ c p e, .connect n c p ∈ as → (c.run p).1 = .error e → c.endsEarly p = true ∧
    (c.records p).filter AuditEvent.isEstablished = []

theorem Traced.once (traced : Traced as n phase records) :
    records.countP AuditEvent.isEstablished ≤ 1 ∧ records.countP AuditEvent.isClosed ≤ 1 := by
  have part {c : Connector} {p : Connection.Peer} (part : records <+: c.records p) :
      records.countP AuditEvent.isEstablished ≤ 1 ∧ records.countP AuditEvent.isClosed ≤ 1 := by
    refine ⟨Nat.le_trans part.sublist.countP_le countP_established_records,
      Nat.le_trans part.sublist.countP_le ?_⟩
    rw [countP_closed_records]
    split <;> decide
  cases traced with
  | absent => simp
  | connecting only whole => exact part ⟨_, whole⟩
  | failed | connected => exact part (List.prefix_refl _)
  | @closed c p _ _ _ _ _ late _ =>
      rw [List.countP_append, List.countP_append, countP_closed_records, late]
      exact ⟨countP_established_records, Nat.le_refl _⟩

theorem Traced.lasting (traced : Traced as n phase records) (begun : .connect n c p ∈ as)
    (works : (c.run p).1 = .ok ()) (late : c.endsEarly p = false) : Paired records := by
  have none : (c.records p).countP AuditEvent.isClosed = 0 := by
    rw [countP_closed_records, late]
    rfl
  cases traced with
  | absent never => exact absurd begun (never c p)
  | connecting only whole =>
      obtain ⟨rfl, rfl⟩ := only c p begun
      rw [← whole, List.countP_append] at none
      exact paired_of_none (Nat.eq_zero_of_add_eq_zero_right none)
  | failed only fails =>
      obtain ⟨rfl, rfl⟩ := only c p begun
      rw [works] at fails
      cases fails
  | connected only =>
      obtain ⟨rfl, rfl⟩ := only c p begun
      exact paired_of_none none
  | closed only =>
      obtain ⟨rfl, rfl⟩ := only c p begun
      refine paired_concat none ?_
      rw [List.countP_eq_length_filter, Connector.established_records, works]
      rfl

theorem Traced.early (traced : Traced as n phase records) (begun : .connect n c p ∈ as)
    (early : c.endsEarly p = true) : records <+: c.records p := by
  cases traced with
  | absent never => exact absurd begun (never c p)
  | connecting only whole =>
      obtain ⟨rfl, rfl⟩ := only c p begun
      exact ⟨_, whole⟩
  | failed only | connected only =>
      obtain ⟨rfl, rfl⟩ := only c p begun
      exact List.prefix_refl _
  | closed only _ _ late =>
      obtain ⟨rfl, rfl⟩ := only c p begun
      rw [early] at late
      cases late

theorem transports_recorded (ran : run .start as = some (s, es)) (n : ConnectionId) :
    Recorded as n (log n es) := by
  have traced := traced_of_reached (run_iff.1 ran) n
  refine ⟨traced.once, fun c p => traced.lasting, fun c p begun early => ⟨traced.early begun early, ?_⟩,
    fun c p e _ fails => ⟨Connector.endsEarly_of_failed fails, ?_⟩⟩
  · rw [Connector.closed_records, early]
    rfl
  · rw [Connector.established_records, fails]

def sampleConnector (gateway : String) : Connector :=
  ⟨⟨"u", [.password "p"], .acceptAny⟩, gateway, true⟩

def stranger : Connection.Peer :=
  ⟨.failed .disconnect, fun _ => .rejected, none⟩

def openGateway : Connection.Peer :=
  ⟨.presented (.ed25519 [1, 2, 3]) (.ok ()), fun _ => .accepted, none⟩

def strangerAndGateway : List Action :=
  [.connect 0 (sampleConnector "gw.example.com:2222") stranger,
    .connect 1 (sampleConnector "second:22") openGateway, .proceed 1, .proceed 0, .proceed 1,
    .proceed 1, .proceed 0, .proceed 1, .proceed 1, .transport 1 (.arrive 0),
    .transport 1 (.proceed 0), .transport 1 .endSession, .transport 1 .dropHandler]

theorem transports_recorded_stranger : ∃ s es, run .start strangerAndGateway = some (s, es) ∧
    (log 1 es).countP AuditEvent.isClosed = 1 ∧ Recorded strangerAndGateway 0 (log 0 es) ∧
    Recorded strangerAndGateway 1 (log 1 es) := by
  have ends : (run .start strangerAndGateway).any (fun last =>
      (log 1 last.2).countP AuditEvent.isClosed = 1) = true := by decide +kernel
  obtain ⟨⟨s, es⟩, ran, closed⟩ := (Option.any_eq_true _ _).1 ends
  exact ⟨s, es, ran, of_decide_eq_true closed, transports_recorded ran 0, transports_recorded ran 1⟩

/-- The connection to the stranger has recorded the end of a transport that never was. -/
theorem end_without_transport : ∃ s es,
    run .start [.connect 0 (sampleConnector "gw.example.com:2222") stranger, .proceed 0, .proceed 0] =
      some (s, es) ∧
    log 0 es = [.transportClosed "gw.example.com:2222" false] ∧ ¬ Paired (log 0 es) := by
  have ends : (run .start [.connect 0 (sampleConnector "gw.example.com:2222") stranger, .proceed 0,
      .proceed 0]).any (fun last =>
        log 0 last.2 = [.transportClosed "gw.example.com:2222" false]) = true := by decide +kernel
  obtain ⟨⟨s, es⟩, ran, records⟩ := (Option.any_eq_true _ _).1 ends
  have records := of_decide_eq_true records
  refine ⟨s, es, ran, records, fun paired => ?_⟩
  exact absurd (paired [] _ [] records rfl).2 (by decide)

end GatewayTunnel.Trail
