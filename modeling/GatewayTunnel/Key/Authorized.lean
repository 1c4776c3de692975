import GatewayTunnel.Config.Error
import GatewayTunnel.Key.Public
import GatewayTunnel.Text.Blank

namespace GatewayTunnel

inductive EntryError where
  | missingType
  | missingKey (type : String)
  | unreadable (e : KeyError)
  | wrongType (type algorithm : String)
  deriving DecidableEq, Repr

def EntryError.message : EntryError → String
  | missingType => "missing key type"
  | missingKey type => "missing key data after " ++ type
  | unreadable e => e.message
  | wrongType type algorithm =>
    "key type " ++ type ++ " does not match encoded key " ++ algorithm

namespace AuthorizedKeys

def typeStarts : List String := ["ssh-", "ecdsa-sha2-", "sk-"]

def isType (word : List Char) : Bool :=
  typeStarts.any fun start => start.toList.isPrefixOf word

def readKey (type key : List Char) : Except EntryError PublicKey := do
  let k ← (PublicKey.ofBase64 (String.ofList key)).mapError .unreadable
  if k.algorithm = String.ofList type then return k
  else throw (.wrongType (String.ofList type) k.algorithm)

def ofWords (words : List (List Char)) : Except EntryError PublicKey :=
  match words.dropWhile fun word => !isType word with
  | [] => .error .missingType
  | [type] => .error (.missingKey (String.ofList type))
  | type :: key :: _ => readKey type key

def ofLine (line : List Char) : Except EntryError PublicKey :=
  ofWords (Text.words line)

def ofLines : (number : Nat) → List (List Char) → Except ConfigError (List PublicKey)
  | _, [] => .ok []
  | number, line :: rest =>
    if line.all Text.isBlank then ofLines (number + 1) rest
    else
      match ofLine (Text.trimmed line) with
      | .error e => .error (.invalidPublicKey number e.message)
      | .ok k => (ofLines (number + 1) rest).map (k :: ·)

def parse (text : String) : Except ConfigError (List PublicKey) :=
  ofLines 1 (Text.lines text.toList)

end AuthorizedKeys

end GatewayTunnel
