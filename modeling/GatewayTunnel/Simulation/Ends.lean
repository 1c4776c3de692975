import GatewayTunnel.Relay.Copy

namespace GatewayTunnel.Simulation

inductive Item where
  | send (bs : Bytes)
  | eof
  | fail (e : IoError)
  deriving DecidableEq, Repr

structure Source where
  items : List (Nat × Item)
  deriving Repr

namespace Source

def ofScript (script : List (Nat × Item)) : Source :=
  let add (acc : List (Nat × Item) × Nat) (entry : Nat × Item) : List (Nat × Item) × Nat :=
    let time := max acc.2 entry.1
    ((time, entry.2) :: acc.1, time)
  ⟨(script.foldl add ([], 0)).1.reverse⟩

def takeBytes (now : Nat) : (bound : Nat) → List (Nat × Item) → List Bytes × List (Nat × Item)
  | bound, (time, .send bs) :: rest =>
    if bound = 0 ∨ now < time then ([], (time, .send bs) :: rest)
    else
      let (front, back) := bs.splitAt bound
      if back.isEmpty then
        let (pieces, left) := takeBytes now (bound - front.length) rest
        (front :: pieces, left)
      else ([front], (time, .send back) :: rest)
  | _, items => ([], items)

def read (now : Nat) (s : Source) : Option (Copy.Reply × Source) :=
  let (pieces, left) := takeBytes now Copy.bufferSize s.items
  if pieces.any fun piece => !piece.isEmpty then some (.read (.ok pieces.flatten), ⟨left⟩)
  else
    match left with
    | (time, .eof) :: _ => if now < time then none else some (.read (.ok []), ⟨left⟩)
    | (time, .fail e) :: rest => if now < time then none else some (.read (.error e), ⟨rest⟩)
    | _ => none

def push (now : Nat) (item : Item) (s : Source) : Source :=
  ⟨s.items.takeWhile (·.1 ≤ now) ++ (now, item) :: s.items.dropWhile (·.1 ≤ now)⟩

def next? (now : Nat) (s : Source) : Option Nat :=
  (s.items.map (·.1)).find? (now < ·)

end Source

structure SinkScript where
  stallAfter : Option Nat
  failAfter : Option (Nat × IoError)
  refuseAfter : Option Nat
  maxWrite : Option Nat
  flushError : Option IoError
  deriving Repr

structure Sink where
  script : SinkScript
  pieces : List Bytes
  count : Nat
  shutdownAt : Option Nat
  deriving Repr

namespace Sink

def ofScript (script : SinkScript) : Sink := ⟨script, [], 0, none⟩

def write (size : Nat) (s : Sink) : Option Copy.Reply :=
  let limits := [s.script.stallAfter, s.script.failAfter.map (·.1), s.script.refuseAfter]
  let room := limits.filterMap fun limit => limit.map (· - s.count)
  let bound := (room ++ s.script.maxWrite.toList).foldl min size
  if s.script.stallAfter.any (· ≤ s.count) then none
  else
    match s.script.failAfter with
    | some (limit, e) => if limit ≤ s.count then some (.write (.error e)) else some (.write (.ok bound))
    | none => some (.write (.ok bound))

def take (bs : Bytes) (s : Sink) : Sink :=
  if bs.isEmpty then s else { s with pieces := bs :: s.pieces, count := s.count + bs.length }

def got (s : Sink) : Bytes :=
  s.pieces.reverse.flatten

end Sink

end GatewayTunnel.Simulation
