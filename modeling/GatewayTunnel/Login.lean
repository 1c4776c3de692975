import GatewayTunnel.Audit
import GatewayTunnel.Identity

namespace GatewayTunnel.Login

inductive Offer where
  | nothing
  | method (m : AuthMethod)
  deriving DecidableEq, Repr

def Offer.name : Offer → String
  | nothing => "none"
  | method m => m.name

def Offer.ofMethod? : AuthMethod → Option Offer
  | .password secret => some (method (.password secret))
  | .publicKey key => (AuthMethod.publicKey key).signer?.map fun signer => method (.publicKey signer.1)

theorem Offer.ofMethod?_eq (m : AuthMethod) : ofMethod? m = some (method m) := by
  cases m <;> rfl

inductive Answer where
  | accepted
  | rejected
  | failed (reason : String)
  deriving DecidableEq, Repr

inductive Event where
  | logged (e : AuditEvent)
  | offered (o : Offer)
  deriving DecidableEq, Repr

structure Account where
  gateway : String
  username : String
  deriving DecidableEq, Repr

def rejectedReason : String := "Authentication rejected by server"

def noMethodReason : String := "no authentication method configured and server requires one"

namespace Account

def attempt (a : Account) (o : Offer) : List Event :=
  [.logged (.authAttempt a.gateway a.username o.name), .offered o]

def success (a : Account) (o : Offer) : List Event :=
  [.logged (.authSuccess a.gateway a.username o.name)]

def failure (a : Account) (o : Offer) (reason : String) : List Event :=
  [.logged (.authFailure a.gateway a.username o.name reason)]

def tryNothing (a : Account) (answer : Answer) : Except TunnelError Unit × List Event :=
  match answer with
  | .accepted => (.ok (), a.attempt .nothing ++ a.success .nothing)
  | .rejected =>
    (.error (.auth noMethodReason), a.attempt .nothing ++ a.failure .nothing noMethodReason)
  | .failed reason => (.error (.auth reason), a.attempt .nothing ++ a.failure .nothing reason)

def tryMethods (a : Account) (answers : Nat → Answer) :
    Nat → List AuthMethod → Except TunnelError Unit × List Event
  | _, [] => (.error (.auth rejectedReason), [])
  | k, m :: rest =>
    match Offer.ofMethod? m with
    | none =>
      let (r, events) := a.tryMethods answers k rest
      (r, .logged (.authAttempt a.gateway a.username m.name) :: events)
    | some offer =>
      let start := a.attempt offer
      match answers k with
      | .accepted => (.ok (), start ++ a.success offer)
      | .failed reason => (.error (.auth reason), start ++ a.failure offer reason)
      | .rejected =>
        let (r, events) := a.tryMethods answers (k + 1) rest
        (r, start ++ a.failure offer rejectedReason ++ events)

theorem tryMethods_cons (a : Account) (answers : Nat → Answer) (k : Nat) (m : AuthMethod)
    (rest : List AuthMethod) : a.tryMethods answers k (m :: rest) =
      let start := a.attempt (.method m)
      match answers k with
      | .accepted => (.ok (), start ++ a.success (.method m))
      | .failed reason => (.error (.auth reason), start ++ a.failure (.method m) reason)
      | .rejected =>
        let (r, events) := a.tryMethods answers (k + 1) rest
        (r, start ++ a.failure (.method m) rejectedReason ++ events) := by
  rw [tryMethods, Offer.ofMethod?_eq]

end Account

def run (i : Identity) (gateway : String) (answers : Nat → Answer) :
    Except TunnelError Unit × List Event :=
  let account : Account := ⟨gateway, i.username⟩
  if i.methods.isEmpty then account.tryNothing (answers 0)
  else account.tryMethods answers 0 i.methods

end GatewayTunnel.Login
