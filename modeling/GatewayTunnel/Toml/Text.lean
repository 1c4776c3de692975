import GatewayTunnel.Toml.Blank

namespace GatewayTunnel.Toml

open Scan

def hexValue? (c : Char) : Option Nat :=
  if '0' ≤ c ∧ c ≤ '9' then some (c.toNat - '0'.toNat)
  else if 'a' ≤ c ∧ c ≤ 'f' then some (c.toNat - 'a'.toNat + 10)
  else if 'A' ≤ c ∧ c ≤ 'F' then some (c.toNat - 'A'.toNat + 10)
  else none

def valueInBase (base : Nat) (digits : List Char) : Nat :=
  digits.foldl (fun acc c => acc * base + (hexValue? c).getD 0) 0

def codePoint (n : Nat) : Scan Char := do
  let digits ← count n fun c => (hexValue? c).isSome
  let value := valueInBase 16 digits
  if value.isValidChar then return Char.ofNat value else failure

def escaped : Scan Char := do
  match ← next with
  | 'b' => return '\x08'
  | 't' => return '\t'
  | 'n' => return '\n'
  | 'f' => return '\x0c'
  | 'r' => return '\r'
  | '"' => return '"'
  | '\\' => return '\\'
  | 'u' => codePoint 4
  | 'U' => codePoint 8
  | _ => failure

def basicChar : Scan (Option Char) := do
  match ← peek with
  | some '"' => return none
  | some '\\' => let _ ← next; return some (← escaped)
  | _ => return some (← satisfy isVisible)

def literalChar : Scan (Option Char) := do
  match ← peek with
  | some '\'' => return none
  | _ => return some (← satisfy isVisible)

def continuesLine : Scan Bool := do
  match (← get) with
  | '\\' :: rest =>
    let afterGap := rest.dropWhile isGap
    return afterGap.head? == some '\n' || afterGap.take 2 == ['\r', '\n']
  | _ => return false

def blankLines : Scan Unit := do
  let _ ← many do
    gap
    return if ← lineEnd then some () else none

def quotesInText (quote : Char) : Scan (Option Nat) := do
  let run := ((← get).takeWhile (· == quote)).length
  if run < 3 then return some run
  else if run ≤ 5 then return none
  else failure

def multilinePiece (quote : Char) (escapes : Bool) : Scan (Option (List Char)) := do
  match ← peek with
  | some c =>
    if c == quote then
      match ← quotesInText quote with
      | some n => literal (List.replicate n quote); return some (List.replicate n quote)
      | none => return none
    else if ← lineEnd then return some ['\n']
    else if escapes && c == '\\' then
      if ← continuesLine then
        let _ ← next
        blankLines
        return some []
      else
        let _ ← next
        return some [← escaped]
    else return some [← satisfy isVisible]
  | none => failure

def multiline (quote : Char) (escapes : Bool) : Scan (List Char) := do
  let _ ← lineEnd
  let pieces ← many (multilinePiece quote escapes)
  let closing ← takeWhile (· == quote)
  return pieces.flatten ++ List.replicate (closing.length - 3) quote

def singleLine : Scan (List Char) := do
  match ← next with
  | '"' => let cs ← many basicChar; literal ['"']; return cs
  | '\'' => let cs ← many literalChar; literal ['\'']; return cs
  | _ => failure

def quotedText : Scan (List Char) := do
  if ← accept ['"', '"', '"'] then multiline '"' true
  else if ← accept ['\'', '\'', '\''] then multiline '\'' false
  else singleLine

end GatewayTunnel.Toml
