import GatewayTunnel.Toml.Scan

namespace GatewayTunnel.Toml

open Scan

def isGap (c : Char) : Bool :=
  c == ' ' || c == '\t'

def isVisible (c : Char) : Bool :=
  c == '\t' || (0x20 ≤ c.toNat && c.toNat != 0x7f)

def gap : Scan Unit := do
  let _ ← takeWhile isGap

def lineEnd : Scan Bool := do
  if ← accept ['\n'] then return true
  accept ['\r', '\n']

def comment : Scan Unit := do
  if ← accept ['#'] then
    let _ ← takeWhile isVisible

def restOfLine : Scan Unit := do
  gap
  comment
  if ← lineEnd then return
  if (← peek).isSome then failure

def gapsAndLines : Scan Unit := do
  let _ ← many do
    gap
    comment
    return if ← lineEnd then some () else none

end GatewayTunnel.Toml
