import GatewayTunnel.Config.Outbound
import GatewayTunnel.Proofs.Identity.Resolution

namespace GatewayTunnel.Config.Outbound

open Identity (Chosen Given)

variable {o : Outbound} {i : Identity} {name : String} {offer : Login.Offer}

/-- The only secret is a private key without anything in it but blanks. -/
def OnlyBlankKey (o : Outbound) : Prop :=
  (∃ key, o.privateKey = some key ∧ key ≠ "" ∧ Text.isBlankText key = true) ∧
    ∀ password, o.password = some password → password = ""

theorem hasCredentials_iff : o.hasCredentials = true ↔
    (∃ password, o.password = some password ∧ password ≠ "") ∨
      ∃ key, o.privateKey = some key ∧ key ≠ "" := by
  simp [hasCredentials, Option.any_eq_true]

theorem ne_empty_of_given {text : String} (given : Given o.privateKey text) : text ≠ "" := by
  rintro rfl
  exact absurd given.2 (by decide)

theorem methodsFor_ne_nil_iff (chosen : Chosen o.password o.privateKey name offer) :
    Identity.methodsFor offer ≠ [] ↔ (∃ password, o.password = some password ∧ password ≠ "") ∨
      ∃ text, Given o.privateKey text := by
  cases chosen with
  | key given => exact iff_of_true (List.cons_ne_nil _ _) (.inr ⟨_, given⟩)
  | password none given filled => exact iff_of_true (List.cons_ne_nil _ _) (.inl ⟨_, given, filled⟩)
  | nothing none empty =>
      refine iff_of_false (fun some => some rfl) ?_
      rintro (⟨password, given, filled⟩ | ⟨text, given⟩)
      · exact filled (empty password given)
      · exact none text given

/-- Whoever has a method has credentials. Without a method there are credentials exactly if a private key is
given that has nothing in it but blanks, and no password beside it. -/
theorem credentials_counted (resolved : o.identity = .ok i) :
    (o.hasCredentials = true ↔ i.methods ≠ [] ∨ o.OnlyBlankKey) ∧
      ¬(i.methods ≠ [] ∧ o.OnlyBlankKey) := by
  obtain ⟨name, offer, v, chosen, -, rfl⟩ := Identity.exists_parts_of_resolve resolved
  have counts : (Identity.ofParts o.user (Identity.methodsFor offer) v).methods ≠ [] ↔ _ :=
    methodsFor_ne_nil_iff chosen
  rw [counts, hasCredentials_iff]
  refine ⟨⟨?_, ?_⟩, ?_⟩
  · rintro (password | ⟨key, given, filled⟩)
    · exact .inl (.inl password)
    · cases blank : Text.isBlankText key with
      | false => exact .inl (.inr ⟨key, given, blank⟩)
      | true =>
          by_cases secret : ∃ password, o.password = some password ∧ password ≠ ""
          · exact .inl (.inl secret)
          · refine .inr ⟨⟨key, given, filled, blank⟩, fun password given => ?_⟩
            exact by_contra fun filled => secret ⟨password, given, filled⟩
  · rintro ((password | ⟨text, given⟩) | ⟨⟨key, given, filled, -⟩, -⟩)
    · exact .inl password
    · exact .inr ⟨text, given.1, ne_empty_of_given given⟩
    · exact .inr ⟨key, given, filled⟩
  · rintro ⟨⟨password, given, filled⟩ | ⟨text, given, filled⟩, ⟨key, blank⟩, empty⟩
    · exact filled (empty password given)
    · cases given.symm.trans blank.1
      exact absurd (filled.symm.trans blank.2.2) Bool.false_ne_true

def sampleSecrets (password privateKey : Option String) : Outbound :=
  ⟨"gw", 22, "", password, privateKey, "", 0⟩

theorem credentials_counted_blank : ∃ i, (sampleSecrets (some "") (some " \n")).identity = .ok i ∧
    ((sampleSecrets (some "") (some " \n")).hasCredentials = true ↔
      i.methods ≠ [] ∨ (sampleSecrets (some "") (some " \n")).OnlyBlankKey) ∧
    ¬(i.methods ≠ [] ∧ (sampleSecrets (some "") (some " \n")).OnlyBlankKey) :=
  have resolved : (sampleSecrets (some "") (some " \n")).identity =
      .ok ⟨"root", [], .acceptAny⟩ := by decide +kernel
  ⟨_, resolved, credentials_counted resolved⟩

/-- A blank private key counts as a credential, and the identity has no method for it. -/
theorem blank_key_counted : (sampleSecrets none (some " ")).identity = .ok ⟨"root", [], .acceptAny⟩ ∧
    ¬((sampleSecrets none (some " ")).hasCredentials = true ↔
      (⟨"root", [], .acceptAny⟩ : Identity).methods ≠ []) := by
  refine ⟨by decide +kernel, fun agree => ?_⟩
  exact agree.1 (by decide +kernel) rfl

end GatewayTunnel.Config.Outbound
