import GatewayTunnel.Login
import GatewayTunnel.Proofs.HostKey.Pinning

namespace GatewayTunnel

open Login (Offer)

variable {text : String} {passphrase password privateKey : Option String} {m : AuthMethod}
  {ms : List AuthMethod} {e : ConfigError}

/-! ## Private keys -/

namespace AuthMethod

/-- The text is a private key, which the passphrase opens if it is encrypted. -/
def Opens (text : String) (passphrase : Option String) (k : PrivateKey) : Prop :=
  (∀ start ∈ publicStarts, ¬start.toList <+: Text.trimStart text.toList) ∧
    PrivateKey.decode (Text.trim text) passphrase = .ok k

theorem ofPrivateKey_eq_ok_iff :
    ofPrivateKey text passphrase = .ok m ↔ ∃ k, Opens text passphrase k ∧ m = .publicKey k := by
  unfold ofPrivateKey Opens
  by_cases secret : ∀ start ∈ publicStarts, ¬start.toList <+: Text.trimStart text.toList
  · have unmarked : (publicStarts.any fun s => s.toList.isPrefixOf (Text.trimStart text.toList)) =
        false := by simpa using secret
    cases PrivateKey.decode (Text.trim text) passphrase with
    | error e => simp [unmarked, Except.mapError, Except.map]
    | ok k => simpa [unmarked, Except.mapError, Except.map, eq_comm] using fun _ => secret
  · have marked : (publicStarts.any fun s => s.toList.isPrefixOf (Text.trimStart text.toList)) =
        true := by simpa using secret
    simp [marked, secret]

theorem invalid_of_ofPrivateKey (failed : ofPrivateKey text passphrase = .error e) :
    ∃ reason, e = .invalidPrivateKey reason := by
  unfold ofPrivateKey at failed
  simp only at failed
  split at failed
  · cases failed
    exact ⟨_, rfl⟩
  · cases decoded : PrivateKey.decode (Text.trim text) passphrase with
    | error e' =>
        rw [decoded] at failed
        cases failed
        unfold keyFault
        split <;> exact ⟨_, rfl⟩
    | ok k =>
        rw [decoded] at failed
        cases failed

end AuthMethod

/-! ## The choice of a method -/

namespace Identity

def Given (privateKey : Option String) (text : String) : Prop :=
  privateKey = some text ∧ Text.isBlankText text = false

/-- A password that is a secret or a passphrase, and not an empty text. -/
def kept (password : Option String) : Option String :=
  password.filter fun s => !s.isEmpty

/-- What is offered to the gateway, with the name of the method: the private key if one is given, else
the password, and nothing without either. A password beside a private key is only its passphrase. -/
inductive Chosen (password privateKey : Option String) : (name : String) → Offer → Prop where
  | key {text : String} {k : PrivateKey} : Given privateKey text →
      AuthMethod.Opens text (kept password) k →
      Chosen password privateKey "publickey" (.method (.publicKey k))
  | password {secret : String} : (∀ text, ¬Given privateKey text) → password = some secret →
      secret ≠ "" → Chosen password privateKey "password" (.method (.password secret))
  | nothing : (∀ text, ¬Given privateKey text) → (∀ secret, password = some secret → secret = "") →
      Chosen password privateKey "none" .nothing

def methodsFor : Offer → List AuthMethod
  | .nothing => []
  | .method m => [m]

theorem filter_key_eq_some_iff :
    (privateKey.filter fun s => !Text.isBlankText s) = some text ↔ Given privateKey text := by
  simp [Option.filter_eq_some_iff, Given]

theorem filter_key_eq_none_iff :
    (privateKey.filter fun s => !Text.isBlankText s) = none ↔ ∀ text, ¬Given privateKey text := by
  simp [Option.filter_eq_none_iff, Given]

theorem kept_eq_some_iff : kept password = some text ↔ password = some text ∧ text ≠ "" := by
  simp [kept, Option.filter_eq_some_iff]

theorem methodsOf_of_given (given : Given privateKey text) :
    methodsOf password privateKey = (AuthMethod.ofPrivateKey text (kept password)).map ([·]) := by
  simp only [methodsOf, filter_key_eq_some_iff.2 given, kept]

theorem methodsOf_of_not_given (none : ∀ text, ¬Given privateKey text) :
    methodsOf password privateKey = .ok ((kept password).elim [] fun secret => [.password secret]) := by
  simp only [methodsOf, filter_key_eq_none_iff.2 none, kept]
  cases password.filter fun s => !s.isEmpty <;> rfl

theorem Chosen.exists_methods (password privateKey : Option String)
    (none : ∀ text, ¬Given privateKey text) : ∃ name o, Chosen password privateKey name o ∧
      methodsOf password privateKey = .ok (methodsFor o) := by
  rw [methodsOf_of_not_given none]
  cases secret : kept password with
  | none =>
      refine ⟨_, _, .nothing none fun s given => by_contra fun filled => ?_, rfl⟩
      rw [kept_eq_some_iff.2 ⟨given, filled⟩] at secret
      cases secret
  | some s =>
      obtain ⟨given, filled⟩ := kept_eq_some_iff.1 secret
      exact ⟨_, _, .password none given filled, rfl⟩

theorem methodsOf_cases (password privateKey : Option String) :
    (∃ name o, Chosen password privateKey name o ∧
      methodsOf password privateKey = .ok (methodsFor o)) ∨
    ∃ text reason, Given privateKey text ∧ (∀ k, ¬AuthMethod.Opens text (kept password) k) ∧
      methodsOf password privateKey = .error (.invalidPrivateKey reason) := by
  by_cases given : ∃ text, Given privateKey text
  · obtain ⟨text, given⟩ := given
    rw [methodsOf_of_given given]
    cases read : AuthMethod.ofPrivateKey text (kept password) with
    | error e =>
        obtain ⟨reason, rfl⟩ := AuthMethod.invalid_of_ofPrivateKey read
        refine .inr ⟨text, reason, given, fun k opens => ?_, rfl⟩
        rw [AuthMethod.ofPrivateKey_eq_ok_iff.2 ⟨k, opens, rfl⟩] at read
        cases read
    | ok m =>
        obtain ⟨k, opens, rfl⟩ := AuthMethod.ofPrivateKey_eq_ok_iff.1 read
        exact .inl ⟨_, _, .key given opens, rfl⟩
  · exact .inl (Chosen.exists_methods password privateKey (not_exists.1 given))

theorem Chosen.opens {name : String} {o : Offer} (chosen : Chosen password privateKey name o)
    (given : Given privateKey text) : ∃ k, AuthMethod.Opens text (kept password) k := by
  cases chosen with
  | key given' opens =>
      obtain rfl := Option.some.inj (given.1.symm.trans given'.1)
      exact ⟨_, opens⟩
  | password none => exact absurd given (none text)
  | nothing none => exact absurd given (none text)

theorem Chosen.not_closed {name : String} {o : Offer} (chosen : Chosen password privateKey name o) :
    ¬∃ text, Given privateKey text ∧ ∀ k, ¬AuthMethod.Opens text (kept password) k := by
  rintro ⟨text, given, closed⟩
  obtain ⟨k, opens⟩ := chosen.opens given
  exact closed k opens

/-! ## Resolving -/

variable {user keys : String} {i : Identity}

theorem resolve_cases (user : String) (password privateKey : Option String) (keys : String) :
    (∃ name o v, Chosen password privateKey name o ∧ HostKeyVerifier.ofAuthorizedKeys keys = .ok v ∧
      resolve user password privateKey keys = .ok (ofParts user (methodsFor o) v)) ∨
    (∃ text reason, Given privateKey text ∧ (∀ k, ¬AuthMethod.Opens text (kept password) k) ∧
      resolve user password privateKey keys = .error (.invalidPrivateKey reason)) ∨
    ∃ name o e, Chosen password privateKey name o ∧ HostKeyVerifier.ofAuthorizedKeys keys = .error e ∧
      resolve user password privateKey keys = .error e := by
  unfold resolve
  rcases methodsOf_cases password privateKey with ⟨name, o, chosen, methods⟩ |
    ⟨text, reason, given, closed, methods⟩
  · rw [methods]
    cases list : HostKeyVerifier.ofAuthorizedKeys keys with
    | ok v => exact .inl ⟨name, o, v, chosen, rfl, rfl⟩
    | error e => exact .inr (.inr ⟨name, o, e, chosen, rfl, rfl⟩)
  · rw [methods]
    exact .inr (.inl ⟨text, reason, given, closed, rfl⟩)

theorem invalidPrivateKey_iff :
    (∃ reason, resolve user password privateKey keys = .error (.invalidPrivateKey reason)) ↔
      ∃ text, Given privateKey text ∧ ∀ k, ¬AuthMethod.Opens text (kept password) k := by
  rcases resolve_cases user password privateKey keys with ⟨_, _, _, chosen, _, resolved⟩ |
    ⟨text, reason, given, closed, failed⟩ | ⟨_, _, _, chosen, list, failed⟩
  · rw [resolved]
    exact iff_of_false nofun chosen.not_closed
  · rw [failed]
    exact iff_of_true ⟨reason, rfl⟩ ⟨text, given, closed⟩
  · obtain ⟨⟨number, reason, rfl⟩, -⟩ := HostKeyVerifier.unreadable_of_error list
    rw [failed]
    exact iff_of_false nofun chosen.not_closed

theorem invalidPublicKey_iff :
    (∃ number reason,
        resolve user password privateKey keys = .error (.invalidPublicKey number reason)) ↔
      (∀ text, Given privateKey text → ∃ k, AuthMethod.Opens text (kept password) k) ∧
        ∃ line ∈ Text.lines keys.toList, Text.trimmed line ≠ [] ∧
          ∀ k, ¬AuthorizedKeys.IsEntry line k := by
  rcases resolve_cases user password privateKey keys with ⟨_, _, _, _, list, resolved⟩ |
    ⟨text, _, given, closed, failed⟩ | ⟨_, _, _, chosen, list, failed⟩
  · rw [resolved]
    refine iff_of_false nofun ?_
    rintro ⟨-, line, member, filled, other⟩
    rcases HostKeyVerifier.blank_or_entry_of_ok list line member with blank | ⟨k, entry⟩
    · exact filled blank
    · exact other k entry
  · rw [failed]
    refine iff_of_false nofun ?_
    rintro ⟨opens, -⟩
    obtain ⟨k, opens⟩ := opens text given
    exact closed k opens
  · obtain ⟨⟨number, reason, rfl⟩, unreadable⟩ := HostKeyVerifier.unreadable_of_error list
    rw [failed]
    exact iff_of_true ⟨number, reason, rfl⟩ ⟨fun _ => chosen.opens, unreadable⟩

theorem exists_parts_of_resolve (resolved : resolve user password privateKey keys = .ok i) :
    ∃ name o v, Chosen password privateKey name o ∧ HostKeyVerifier.ofAuthorizedKeys keys = .ok v ∧
      i = ofParts user (methodsFor o) v := by
  rcases resolve_cases user password privateKey keys with ⟨name, o, v, chosen, list, same⟩ |
    ⟨_, _, _, _, failed⟩ | ⟨_, _, _, _, _, failed⟩
  · rw [same] at resolved
    cases resolved
    exact ⟨name, o, v, chosen, list, rfl⟩
  · rw [failed] at resolved
    cases resolved
  · rw [failed] at resolved
    cases resolved

theorem keyFault_of_resolve (failed : resolve user password privateKey keys = .error e) :
    (∃ reason, e = .invalidPrivateKey reason) ∨ ∃ number reason, e = .invalidPublicKey number reason := by
  rcases resolve_cases user password privateKey keys with ⟨_, _, _, _, _, resolved⟩ |
    ⟨_, reason, _, _, unopened⟩ | ⟨_, _, e', _, list, unread⟩
  · rw [resolved] at failed
    cases failed
  · rw [unopened] at failed
    cases failed
    exact .inl ⟨reason, rfl⟩
  · rw [unread] at failed
    cases failed
    exact .inr (HostKeyVerifier.unreadable_of_error list).1

end Identity

end GatewayTunnel
