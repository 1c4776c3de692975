import GatewayTunnel.Connection
import GatewayTunnel.Transport

namespace GatewayTunnel.Simulation

open Login (Offer Answer)

structure Server where
  hostKey : PublicKey
  acceptsNothing : Bool
  password : Option String
  publicKeys : List String
  abortOn : Option String
  refuses : List String

namespace Server

def accepts (s : Server) : Offer → Bool
  | .nothing => s.acceptsNothing
  | .method (.password secret) => s.password == some secret
  | .method (.publicKey key) => s.publicKeys.contains key.publicKey.base64

def isMade : Offer → Bool
  | .method (.publicKey key) => key.canSign
  | _ => true

def drops (s : Server) (o : Offer) : Bool :=
  !isMade o || s.abortOn == some o.name

def offers (i : Identity) : List Offer :=
  if i.methods.isEmpty then [.nothing] else i.methods.map .method

/-- The answers to the offers of an identity. After the session has ended nothing can be sent. -/
def answer (s : Server) (i : Identity) (k : Nat) : Answer :=
  if ((offers i).take k).any s.drops then .failed SessionFailure.send.message
  else
    match (offers i)[k]? with
    | some o => if s.accepts o && !s.drops o then .accepted else .rejected
    | none => .rejected

def peer (s : Server) (i : Identity) : Connection.Peer := {
  exchange := .presented s.hostKey (.ok ()), answers := s.answer i
  endsAfter := ((offers i).findIdx? s.drops).map (3 * · + 2) }

end Server

/-! ## Gateways that only send bytes -/

def lineLimit : Nat := 256

def firstLine? (bs : Bytes) : Option Bytes :=
  match bs with
  | [] => none
  | b :: rest =>
    let line := b :: rest.takeWhile (· != 10)
    if line.length < bs.length then
      some (if line.getLast? = some 13 then line.dropLast else line)
    else none

def identifies (bs : Bytes) : Bool :=
  match bs with
  | [] => false
  | _ :: rest =>
    match firstLine? (bs.take lineLimit) with
    | none => false
    | some line =>
      (Bytes.ofString "SSH-2.0-").isPrefixOf line || identifies (rest.drop (lineLimit - 1))
termination_by bs.length
decreasing_by
  simp only [List.length_drop, List.length_cons]
  omega

def rawPeer (bs : Bytes) : Connection.Peer := {
  exchange := .failed (if identifies bs then .earlyEnd else .disconnect)
  answers := fun _ => .rejected, endsAfter := none }

/-! ## Sessions -/

inductive ServerStep where
  | openChannel (d : Destination) (bs : Bytes)
  | close
  | isClosed
  | awaitClosed
  | hangUp
  | cut
  | silence
  | advance (ms : Nat)

inductive ServerResult where
  | nothing
  | echoed (bs : Bytes)
  | unit (r : Except TunnelError Unit)
  | flag (b : Bool)
  | closedAt (secs : Nat)

inductive Seen where
  | offered (username : String) (o : Offer)
  | asked (r : Transport.ChannelRequest)

structure ServerView where
  result : ServerResult
  log : List AuditEvent
  seen : List Seen

structure ServerRun where
  refuses : List String
  transport : Transport.State
  now : Nat
  interval : Nat
  lastHeard : Nat
  silent : Bool
  nextCall : Nat

namespace ServerRun

def act (s : ServerRun) : List Transport.Action → ServerRun × List AuditEvent
  | [] => (s, [])
  | a :: rest =>
    match Transport.step s.transport a with
    | none => s.act rest
    | some (transport, events) =>
      let (s, log) := act { s with transport } rest
      (s, events.filterMap (fun | .logged e => some e | _ => none) ++ log)

def finish (s : ServerRun) : ServerRun × List AuditEvent :=
  s.act [.endSession, .dropHandler]

def closeResult (s : ServerRun) (c : Transport.CallId) : Except TunnelError Unit :=
  match s.transport.calls c with
  | .done r => r
  | _ => .ok ()

def close (s : ServerRun) : ServerRun × List AuditEvent :=
  let c := s.nextCall
  let alive := !s.transport.isClosed
  let (s, log) := { s with nextCall := c + 1 }.act
    [.arrive c, .proceed c, .proceed c, .proceed c, .disconnectEnded c (.ok ())]
  if alive then
    let (s, more) := s.finish
    (s, log ++ more)
  else (s, log)

def deadline? (s : ServerRun) : Option Nat :=
  if s.silent then Transport.givenUpAt? s.interval s.lastHeard else none

def moveTo (s : ServerRun) (now : Nat) : ServerRun × List AuditEvent :=
  if s.transport.isClosed then ({ s with now }, [])
  else if s.silent then
    match s.deadline? with
    | some deadline => if deadline ≤ now then { s with now }.finish else ({ s with now }, [])
    | none => ({ s with now }, [])
  else
    let heard := if s.interval = 0 then s.lastHeard
      else s.lastHeard + (now - s.lastHeard) / s.interval * s.interval
    ({ s with now, lastHeard := heard }, [])

def openChannel (s : ServerRun) (d : Destination) (bs : Bytes) : ServerRun × ServerView :=
  let failed (f : SessionFailure) : ServerResult := .unit (.error (Transport.channelError d f))
  if s.transport.isClosed then (s, ⟨failed .send, [], []⟩)
  else if s.silent then
    let (s, log) := s.moveTo (s.deadline?.getD s.now)
    (s, ⟨failed .disconnect, log, []⟩)
  else
    let seen := [Seen.asked (.ofDestination d)]
    let s := { s with lastHeard := s.now }
    if s.refuses.contains d.address.host then
      (s, ⟨failed (.refused "AdministrativelyProhibited"), [], seen⟩)
    else (s, ⟨.echoed bs, [], seen⟩)

def step (s : ServerRun) : ServerStep → ServerRun × ServerView
  | .openChannel d bs => s.openChannel d bs
  | .close =>
    let c := s.nextCall
    let (s, log) := s.close
    (s, ⟨.unit (s.closeResult c), log, []⟩)
  | .isClosed => (s, ⟨.flag s.transport.isClosed, [], []⟩)
  | .awaitClosed =>
    let (s, log) := if s.transport.isClosed then (s, []) else s.moveTo (s.deadline?.getD s.now)
    (s, ⟨.closedAt (s.now / 1000), log, []⟩)
  | .hangUp =>
    let (s, log) := if s.silent then (s, []) else s.finish
    (s, ⟨.nothing, log, []⟩)
  | .cut =>
    let (s, log) := s.finish
    (s, ⟨.nothing, log, []⟩)
  | .silence => ({ s with silent := true }, ⟨.nothing, [], []⟩)
  | .advance ms =>
    let (s, log) := s.moveTo (s.now + ms)
    (s, ⟨.nothing, log, []⟩)

def run (s : ServerRun) : List ServerStep → List ServerView
  | [] => [⟨.nothing, s.finish.2, []⟩]
  | a :: rest =>
    let (s, view) := s.step a
    view :: s.run rest

end ServerRun

/-! ## Whole runs -/

structure ServerReport where
  connected : Except TunnelError String
  log : List AuditEvent
  seen : List Seen
  reports : List TrustEvent
  views : List ServerView

def ServerReport.of (i : Identity) (gateway : String) (observesKeys : Bool) (interval : Nat)
    (refuses : List String) (p : Connection.Peer) (steps : List ServerStep) : ServerReport :=
  let (r, events) := Connection.run i gateway p
  let seen := events.filterMap fun
    | .offered o => if Server.isMade o then some (.offered i.username o) else none
    | _ => none
  let start : ServerRun := ⟨refuses, .start gateway, 0, interval, 0, false, 0⟩
  { connected := r.map fun () => start.transport.shown
    log := events.filterMap (Connection.Event.log? observesKeys), seen
    reports := if observesKeys then [] else events.filterMap Connection.Event.report?
    views := match r with
      | .ok () => start.run steps
      | .error _ => [] }

end GatewayTunnel.Simulation
