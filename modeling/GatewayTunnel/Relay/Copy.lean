import GatewayTunnel.Bytes
import GatewayTunnel.IoError

/-!
# One direction of a relay

A direction reads a chunk, writes all of it, flushes, and starts again. At the end of its source it
closes its sink for writing and is done; whether that works does not matter. It stops at the first
error. `Copy.step` takes one answer of the source or the sink, and `Copy.taken` is what the sink took
with it.
-/

namespace GatewayTunnel

/-- Where a direction is. `total` counts the bytes of the chunks that are through. -/
inductive Copy where
  | reading (total : Nat)
  /-- A chunk of the given size is being written, of which `rest` is left. -/
  | writing (total size : Nat) (rest : Bytes)
  | flushing (total size : Nat)
  | halfClosing (total : Nat)
  | ended (r : Except IoError Nat)

namespace Copy

inductive Input where
  | chunk (bs : Bytes)
  | eof
  | readFailed (e : IoError)
  /-- The sink took the first bytes of those offered, at most as many as given. -/
  | accepted (bound : Nat)
  | writeFailed (e : IoError)
  | flushed
  | flushFailed (e : IoError)
  | halfClosed
  deriving DecidableEq, Repr

inductive Reply where
  | read (r : Except IoError Bytes)
  | write (r : Except IoError Nat)
  | flush (r : Except IoError Unit)
  | shutdown (r : Except IoError Unit)

/-- What a reply says to the direction. A read of nothing is the end of the source. -/
def Reply.input : Reply → Input
  | read (.ok []) => .eof
  | read (.ok bs) => .chunk bs
  | read (.error e) => .readFailed e
  | write (.ok bound) => .accepted bound
  | write (.error e) => .writeFailed e
  | flush (.ok ()) => .flushed
  | flush (.error e) => .flushFailed e
  | shutdown _ => .halfClosed

def bufferSize : Nat := 32768

def start : Copy := reading 0

def step : Copy → Input → Option Copy
  | reading total, .chunk bs =>
    if 0 < bs.length ∧ bs.length ≤ bufferSize then some (writing total bs.length bs) else none
  | reading total, .eof => some (halfClosing total)
  | reading _, .readFailed e => some (ended (.error e))
  | writing _ _ _, .accepted 0 => some (ended (.error (.bare .writeZero)))
  | writing total size rest, .accepted bound =>
    match rest.drop bound with
    | [] => some (flushing total size)
    | more => some (writing total size more)
  | writing .., .writeFailed e => some (ended (.error e))
  | flushing total size, .flushed => some (reading (total + size))
  | flushing .., .flushFailed e => some (ended (.error e))
  | halfClosing total, .halfClosed => some (ended (.ok total))
  | _, _ => none

def taken : Copy → Input → Bytes
  | writing _ _ rest, .accepted bound => rest.take bound
  | _, _ => []

def given : Input → Bytes
  | .chunk bs => bs
  | _ => []

/-- The answer counts as activity: a chunk was read, or is through. -/
def isActivity : Input → Bool
  | .chunk _ | .flushed => true
  | _ => false

def result? : Copy → Option (Except IoError Nat)
  | ended r => some r
  | _ => none

end Copy

end GatewayTunnel
