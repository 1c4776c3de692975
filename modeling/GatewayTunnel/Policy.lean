import GatewayTunnel.Config.Value
import GatewayTunnel.Duration
import GatewayTunnel.Text.Blank
import GatewayTunnel.Text.Numeral

namespace GatewayTunnel

open Config

structure SessionPolicy where
  /-- While both directions are open. -/
  connectionIdle : Duration
  /-- Once the direction from the gateway to the caller has ended. -/
  uplinkOnly : Duration
  /-- Once the direction from the caller to the gateway has ended. -/
  downlinkOnly : Duration
  deriving DecidableEq, Repr

def maxWord64 : Nat := 18446744073709551615

def maxWord32 : Nat := 4294967295

structure LevelPolicy where
  connectionIdleSecs : UInt64
  uplinkOnlySecs : UInt64
  downlinkOnlySecs : UInt64
  deriving DecidableEq, Repr

namespace LevelPolicy

def standard : LevelPolicy := ⟨300, 1, 1⟩

instance : Inhabited LevelPolicy := ⟨standard⟩

def keys : List String := ["connection_idle_secs", "uplink_only_secs", "downlink_only_secs"]

def ofValue? (surplus : Surplus) (v : Value) : Option LevelPolicy := do
  let r ← v.record? surplus keys
  let word (i : Nat) (default : UInt64) : Option UInt64 :=
    r.getD i (fun v => (v.natural? maxWord64).map UInt64.ofNat) default
  return ⟨← word 0 standard.connectionIdleSecs, ← word 1 standard.uplinkOnlySecs,
    ← word 2 standard.downlinkOnlySecs⟩

def toSession (level : LevelPolicy) : SessionPolicy :=
  ⟨.ofSecs level.connectionIdleSecs.toNat, .ofSecs level.uplinkOnlySecs.toNat,
    .ofSecs level.downlinkOnlySecs.toNat⟩

end LevelPolicy

namespace SessionPolicy

def standard : SessionPolicy := LevelPolicy.standard.toSession

instance : Inhabited SessionPolicy := ⟨standard⟩

end SessionPolicy

structure PolicyTable where
  levels : List (String × LevelPolicy)
  deriving DecidableEq, Repr

namespace PolicyTable

instance : Inhabited PolicyTable := ⟨⟨[]⟩⟩

def levelOfKey? (key : String) : Option UInt32 :=
  (Text.Numeral.read maxWord32 (Text.trimmed key.toList)).map UInt32.ofNat

def invalidLevels (t : PolicyTable) : List String :=
  ((t.levels.map (·.1)).filter fun key => (levelOfKey? key).isNone).mergeSort fun a b => a ≤ b

def ofLevels? (surplus : Surplus) (v : Value) : Option PolicyTable := do
  let entries ← v.entries?
  let levels ← entries.mapM fun (key, v) => return (key, ← LevelPolicy.ofValue? surplus v)
  return ⟨levels⟩

def ofValue? (surplus : Surplus) (v : Value) : Option PolicyTable := do
  let r ← v.record? surplus ["levels"]
  r.getD 0 (ofLevels? surplus) default

end PolicyTable

/-- The policies of the levels; the last one given to a level counts. -/
structure Policies where
  entries : List (UInt32 × SessionPolicy)
  deriving DecidableEq, Repr

namespace Policies

def empty : Policies := ⟨[]⟩

def withLevel (ps : Policies) (level : UInt32) (policy : SessionPolicy) : Policies :=
  ⟨(level, policy) :: ps.entries.filter fun entry => entry.1 != level⟩

def ofTable (t : PolicyTable) : Policies :=
  t.levels.foldl (fun ps (key, level) =>
    match PolicyTable.levelOfKey? key with
    | some n => ps.withLevel n level.toSession
    | none => ps) empty

def forLevel (ps : Policies) (level : UInt32) : SessionPolicy :=
  (ps.entries.lookup level).getD .standard

end Policies

end GatewayTunnel
