import GatewayTunnel.Text.Blank
import GatewayTunnel.Text.Numeral

namespace GatewayTunnel.IpLiteral

/-- One part of a v4 literal: 0 to 255 in one to three digits, without a leading zero. -/
def isOctet (cs : List Char) : Bool :=
  cs.length ≤ 3 && (cs.length == 1 || cs.head? != some '0') &&
    match Text.Numeral.value? cs with
    | some n => n ≤ 255
    | none => false

def isV4 (cs : List Char) : Bool :=
  let parts := Text.splitWhere (· == '.') cs
  parts.length == 4 && parts.all isOctet

def isHexDigit (c : Char) : Bool :=
  c.isDigit || ('a' ≤ c && c ≤ 'f') || ('A' ≤ c && c ≤ 'F')

def isGroup (cs : List Char) : Bool :=
  1 ≤ cs.length && cs.length ≤ 4 && cs.all isHexDigit

def groupCount? : List (List Char) → Option Nat
  | [] => some 0
  | [last] => if isGroup last then some 1 else if isV4 last then some 2 else none
  | piece :: rest => if isGroup piece then (groupCount? rest).map (· + 1) else none

def sideCount? (cs : List Char) : Option Nat :=
  if cs.isEmpty then some 0 else groupCount? (Text.splitWhere (· == ':') cs)

def splitCompressed? : List Char → Option (List Char × List Char)
  | ':' :: ':' :: rest => some ([], rest)
  | c :: rest => (splitCompressed? rest).map fun (before, after) => (c :: before, after)
  | [] => none

def isV6 (cs : List Char) : Bool :=
  match splitCompressed? cs with
  | none => sideCount? cs == some 8
  | some (before, after) =>
    !before.contains '.' &&
      match sideCount? before, sideCount? after with
      | some m, some n => m + n ≤ 7
      | _, _ => false

def isLiteral (cs : List Char) : Bool :=
  isV4 cs || isV6 cs

end GatewayTunnel.IpLiteral
