/-!
# Tokens

A token can be cancelled by everybody who has it, once and for all. A child of a token is cancelled with
it, and not the other way round: a token is cancelled when it was cancelled itself, or one of those above
it was.
-/

namespace GatewayTunnel

abbrev TokenId := Nat

structure Token where
  /-- The tokens above it, from its parent up. -/
  above : List TokenId
  stopped : Bool
  deriving DecidableEq, Repr

structure Tokens where
  all : List Token
  deriving DecidableEq, Repr

namespace Tokens

def lone : Tokens := ⟨[⟨[], false⟩]⟩

instance : Inhabited Tokens := ⟨lone⟩

def count (ts : Tokens) : Nat :=
  ts.all.length

def line (ts : Tokens) (t : TokenId) : List TokenId :=
  t :: (ts.all[t]?.map Token.above).getD []

def stopped (ts : Tokens) (t : TokenId) : Bool :=
  ts.all[t]?.any Token.stopped

def isCancelled (ts : Tokens) (t : TokenId) : Bool :=
  (ts.line t).any ts.stopped

def child (ts : Tokens) (t : TokenId) : Tokens :=
  ⟨ts.all ++ [⟨ts.line t, false⟩]⟩

def cancel (ts : Tokens) (t : TokenId) : Tokens :=
  ⟨ts.all.modify t fun token => { token with stopped := true }⟩

end Tokens

end GatewayTunnel
