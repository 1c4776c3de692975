import GatewayTunnel.Bytes.Base64

namespace GatewayTunnel

inductive KeyError where
  | unreadable
  | base64 (e : Base64.Error)
  | encrypted
  | length
  | overflow
  | encoding
  | label (name : String)
  | unknownAlgorithm
  | format
  /-- Decryption failed, or two values that have to agree do not. -/
  | crypto
  | point
  | publicKey
  | trailing (count : Nat)
  | stillEncrypted
  | malformed
  deriving DecidableEq, Repr

namespace KeyError

def detail : KeyError → String
  | length => "length invalid"
  | overflow => "internal overflow error"
  | encoding => "character encoding invalid"
  | label name => "invalid label: '" ++ name ++ "'"
  | unknownAlgorithm => "unknown algorithm"
  | format => "format encoding error"
  | crypto => "cryptographic error"
  | point => "ECDSA encoding error: elliptic curve point encoding error"
  | publicKey => "public key is incorrect"
  | trailing count =>
    "unexpected trailing data at end of message (" ++ Text.Numeral.text count ++ " bytes)"
  | stillEncrypted => "private key is encrypted"
  | _ => ""

def message : KeyError → String
  | unreadable => "Could not read key"
  | base64 e => "Base64 decoding error: " ++ e.message
  | encrypted => "The key is encrypted"
  | malformed => "ASN1 decoding error"
  | e => "SshKey: " ++ e.detail

end KeyError

end GatewayTunnel
