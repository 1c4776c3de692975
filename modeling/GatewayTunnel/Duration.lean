import GatewayTunnel.Text.Numeral

namespace GatewayTunnel

def nanosPerSec : Nat := 1000000000

def secsLimit : Nat := 18446744073709551616

@[ext] structure Duration where
  secs : Nat
  nanos : Nat
  secs_lt : secs < secsLimit
  nanos_lt : nanos < nanosPerSec
  deriving DecidableEq, Repr

namespace Duration

def max : Duration := ⟨secsLimit - 1, nanosPerSec - 1, by decide, by decide⟩

def ofParts (secs nanos : Nat) : Duration :=
  let whole := secs + nanos / nanosPerSec
  if h : whole < secsLimit then
    ⟨whole, nanos % nanosPerSec, h, Nat.mod_lt _ (by decide)⟩
  else max

def ofSecs (n : Nat) : Duration := ofParts n 0

def ofMillis (n : Nat) : Duration := ofParts (n / 1000) (n % 1000 * 1000000)

instance : Inhabited Duration := ⟨ofSecs 0⟩

def totalNanos (d : Duration) : Nat := d.secs * nanosPerSec + d.nanos

/-- The least number of milliseconds that is not shorter. -/
def ceilMillis (d : Duration) : Nat := d.secs * 1000 + (d.nanos + 999999) / 1000000

def scale (d : Duration) (k : Nat) : Duration :=
  ofParts (d.secs * k) (d.nanos * k)

/-! ## Written form -/

def padded (width n : Nat) : List Char :=
  let ds := Text.Numeral.digits n
  List.replicate (width - ds.length) '0' ++ ds

def fraction (width part : Nat) : String :=
  let ds := ((padded width part).reverse.dropWhile (· == '0')).reverse
  if part = 0 then "" else "." ++ String.ofList ds

def inUnit (whole width part : Nat) (unit : String) : String :=
  Text.Numeral.text whole ++ fraction width part ++ unit

def render (d : Duration) : String :=
  if 0 < d.secs then inUnit d.secs 9 d.nanos "s"
  else if 1000000 ≤ d.nanos then inUnit (d.nanos / 1000000) 6 (d.nanos % 1000000) "ms"
  else if 1000 ≤ d.nanos then inUnit (d.nanos / 1000) 3 (d.nanos % 1000) "µs"
  else inUnit d.nanos 0 0 "ns"

end Duration

end GatewayTunnel
