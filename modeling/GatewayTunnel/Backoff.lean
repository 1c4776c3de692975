import GatewayTunnel.Duration

namespace GatewayTunnel

structure Backoff where
  baseDelay : Duration
  maxAttempts : Nat
  deriving DecidableEq, Repr

/-- All attempts failed; the kept errors are in the order in which they were seen. -/
structure RetryError (ε : Type) where
  attempts : Nat
  errors : List ε
  deriving DecidableEq, Repr

namespace RetryError

def message {ε : Type} (text : ε → String) (e : RetryError ε) : String :=
  let head := "all " ++ Text.Numeral.text e.attempts ++ " attempts failed"
  if e.errors.isEmpty then head
  else head ++ ": " ++ String.intercalate "; " (e.errors.map text)

def last? {ε : Type} (e : RetryError ε) : Option ε :=
  e.errors.getLast?

end RetryError

namespace Backoff

def standard : Backoff := ⟨Duration.ofMillis 100, 3⟩

instance : Inhabited Backoff := ⟨standard⟩

def attempts (b : Backoff) : Nat :=
  max 1 b.maxAttempts

def maxDoublings : Nat := 31

def delayFor (b : Backoff) (attempt : Nat) : Duration :=
  b.baseDelay.scale (Nat.pow 2 (min attempt maxDoublings))

structure Progress (ε : Type) where
  attempt : Nat
  errors : List ε
  deriving DecidableEq, Repr

def Progress.start {ε : Type} : Progress ε := ⟨0, []⟩

/-- Adds an error, unless the last kept one has the same text. -/
def keep {ε : Type} (text : ε → String) (errors : List ε) (e : ε) : List ε :=
  match errors.getLast? with
  | some last => if text last = text e then errors else errors ++ [e]
  | none => errors ++ [e]

def Progress.fail {ε : Type} (b : Backoff) (text : ε → String) (p : Progress ε) (e : ε) :
    Except (RetryError ε) (Duration × Progress ε) :=
  let errors := keep text p.errors e
  if p.attempt + 1 < b.attempts then .ok (b.delayFor p.attempt, ⟨p.attempt + 1, errors⟩)
  else .error ⟨b.attempts, errors⟩

theorem Progress.fail_ok {ε : Type} {b : Backoff} {text : ε → String} {p q : Progress ε} {e : ε}
    {pause : Duration} (h : p.fail b text e = .ok (pause, q)) :
    q.attempt = p.attempt + 1 ∧ p.attempt + 1 < b.attempts ∧ pause = b.delayFor p.attempt := by
  unfold Progress.fail at h
  split at h
  · next lt => cases h; exact ⟨rfl, lt, rfl⟩
  · cases h

inductive Event where
  | call (attempt : Nat)
  | pause (d : Duration)
  deriving DecidableEq, Repr

structure Outcome (ε α : Type) where
  events : List Event
  result : Except (RetryError ε) α

def runFrom {ε α : Type} (b : Backoff) (text : ε → String) (operation : Nat → Except ε α)
    (p : Progress ε) : Outcome ε α :=
  match operation p.attempt with
  | .ok a => ⟨[.call p.attempt], .ok a⟩
  | .error e =>
    match _h : p.fail b text e with
    | .error spent => ⟨[.call p.attempt], .error spent⟩
    | .ok (pause, q) =>
      let rest := runFrom b text operation q
      ⟨.call p.attempt :: .pause pause :: rest.events, rest.result⟩
termination_by b.attempts - p.attempt
decreasing_by
  have := Progress.fail_ok _h
  omega

def run {ε α : Type} (b : Backoff) (text : ε → String) (operation : Nat → Except ε α) :
    Outcome ε α :=
  b.runFrom text operation .start

/-- The time of each call of a run that starts at `now`, when a call takes the given time, and the
time of its end. -/
def timeline (takes : Nat → Nat) (now : Nat) : List Event → List (Nat × Nat) × Nat
  | [] => ([], now)
  | .call attempt :: rest =>
    let (calls, ended) := timeline takes (now + takes attempt) rest
    ((attempt, now) :: calls, ended)
  | .pause d :: rest => timeline takes (now + d.ceilMillis) rest

end Backoff

end GatewayTunnel
