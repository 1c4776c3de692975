import GatewayTunnel.Key.Public
import GatewayTunnel.Proofs.Bytes.Wire

namespace GatewayTunnel

open Wire (Takes takes_bind takes_pure takes_throw takes_lift takes_guard takes_unless)

variable {bs rest point : Bytes} {name : String} {k : PublicKey}

namespace Curve

variable {c : Curve}

theorem ofName_eq_some_iff : (all.find? fun c => c.name == name) = some c ↔ c.name = name := by
  constructor
  · intro found
    simpa using List.find?_some found
  · rintro rfl
    cases c <;> rfl

theorem takes_read : Takes Curve.read bs c rest ↔ bs = Wire.text c.name ++ rest := by
  simp only [Curve.read, takes_bind, Wire.takes_readName]
  constructor
  · rintro ⟨name, _, ⟨-, rfl⟩, found⟩
    split at found
    · rename_i known
      obtain ⟨rfl, rfl⟩ := takes_pure.1 found
      rw [ofName_eq_some_iff.1 known]
    · exact absurd found takes_throw
  · rintro rfl
    refine ⟨c.name, rest, ⟨by cases c <;> decide, rfl⟩, ?_⟩
    rw [ofName_eq_some_iff.2 rfl]
    exact takes_pure.2 ⟨rfl, rfl⟩

theorem takes_readPoint : Takes Curve.readPoint bs (c, point) rest ↔
    point.length ≤ maxPointLength ∧ ofPoint point = .ok c ∧
      bs = Wire.text c.name ++ (Wire.string point ++ rest) := by
  simp only [Curve.readPoint, takes_bind, takes_read, Wire.takes_readStringUpTo, takes_lift,
    takes_guard, Prod.mk.injEq]
  constructor
  · rintro ⟨_, _, rfl, _, _, ⟨short, -, rfl⟩, _, _, ⟨on, rfl⟩, rfl, ⟨rfl, rfl⟩, rfl⟩
    exact ⟨short, on, rfl⟩
  · rintro ⟨short, on, rfl⟩
    exact ⟨c, _, rfl, point, rest, ⟨short, Nat.le_trans short (by decide), rfl⟩, c, rest, ⟨on, rfl⟩,
      rfl, ⟨rfl, rfl⟩, rfl⟩

end Curve

namespace PublicKey

def rsaNames : List String :=
  ["ssh-rsa", "rsa-sha2-256", "rsa-sha2-512"]

def knownNames : List String :=
  ["ssh-ed25519", "ssh-dss", "sk-ssh-ed25519@openssh.com", "sk-ecdsa-sha2-nistp256@openssh.com"] ++
    rsaNames ++ Curve.all.map Curve.algorithm

def names : PublicKey → List String
  | rsa .. => rsaNames
  | k => [k.algorithm]

def HasForm : PublicKey → Prop
  | ed25519 key => key.length = ed25519Size
  | rsa e n => ∀ number ∈ [e, n], Wire.isNumber number = true ∧ number.length ≤ Wire.maxLength
  | dsa p q g y =>
    ∀ number ∈ [p, q, g, y], Wire.isNumber number = true ∧ number.length ≤ Wire.maxLength
  | ecdsa curve point => point.length ≤ Curve.maxPointLength ∧ Curve.ofPoint point = .ok curve
  | securityEd25519 key application =>
    key.length = ed25519Size ∧ (Bytes.ofString application).length ≤ Wire.maxLength
  | securityEcdsa point application =>
    point.length ≤ 65 ∧ Curve.checkPoint Curve.p256.coordinateSize point = .ok () ∧
      (Bytes.ofString application).length ≤ Wire.maxLength
  | foreign name data =>
    name ∉ knownNames ∧ isForeignName name = true ∧
      (Bytes.ofString name).length ≤ Wire.maxNameLength ∧ data.length ≤ Wire.maxLength

/-! ## The fields of each algorithm -/

theorem takes_ed25519 : Takes (readFields "ssh-ed25519") bs k rest ↔
    ∃ key, k = ed25519 key ∧ k.HasForm ∧ bs = k.fields ++ rest := by
  simp only [readFields, takes_bind, Wire.takes_readFixed, takes_pure]
  constructor
  · rintro ⟨key, _, ⟨size, -, rfl⟩, rfl, rfl⟩
    exact ⟨key, rfl, size, rfl⟩
  · rintro ⟨key, rfl, size, rfl⟩
    exact ⟨key, rest, ⟨size, by rw [size]; decide, rfl⟩, rfl, rfl⟩

theorem takes_rsa (named : name ∈ rsaNames) :
    Takes (readFields name) bs k rest ↔
      ∃ e n, k = rsa e n ∧ k.HasForm ∧ bs = k.fields ++ rest := by
  have same : readFields name = do return rsa (← Wire.readNumber) (← Wire.readNumber) := by
    simp only [rsaNames, List.mem_cons, List.not_mem_nil, or_false] at named
    rcases named with rfl | rfl | rfl <;> rfl
  simp only [same, takes_bind, Wire.takes_readNumber, takes_pure]
  constructor
  · rintro ⟨e, _, ⟨numberE, shortE, rfl⟩, n, _, ⟨numberN, shortN, rfl⟩, rfl, rfl⟩
    exact ⟨e, n, rfl, by simp [HasForm, *], by simp [fields]⟩
  · rintro ⟨e, n, rfl, form, rfl⟩
    simp only [HasForm, List.forall_mem_cons] at form
    obtain ⟨⟨numberE, shortE⟩, ⟨numberN, shortN⟩, -⟩ := form
    exact ⟨e, _, ⟨numberE, shortE, by rw [fields, List.append_assoc]⟩, n, rest,
      ⟨numberN, shortN, rfl⟩, rfl, rfl⟩

theorem takes_dsa : Takes (readFields "ssh-dss") bs k rest ↔
    ∃ p q g y, k = dsa p q g y ∧ k.HasForm ∧ bs = k.fields ++ rest := by
  simp only [readFields, takes_bind, Wire.takes_readNumber, takes_pure]
  constructor
  · rintro ⟨p, _, ⟨numberP, shortP, rfl⟩, q, _, ⟨numberQ, shortQ, rfl⟩, g, _,
      ⟨numberG, shortG, rfl⟩, y, _, ⟨numberY, shortY, rfl⟩, rfl, rfl⟩
    exact ⟨p, q, g, y, rfl, by simp [HasForm, *], by simp [fields]⟩
  · rintro ⟨p, q, g, y, rfl, form, rfl⟩
    simp only [HasForm, List.forall_mem_cons] at form
    obtain ⟨⟨numberP, shortP⟩, ⟨numberQ, shortQ⟩, ⟨numberG, shortG⟩, ⟨numberY, shortY⟩, -⟩ := form
    exact ⟨p, _, ⟨numberP, shortP, by simp only [fields, List.append_assoc]⟩,
      q, _, ⟨numberQ, shortQ, rfl⟩, g, _, ⟨numberG, shortG, rfl⟩,
      y, rest, ⟨numberY, shortY, rfl⟩, rfl, rfl⟩

theorem takes_ecdsa (curve : Curve) : Takes (readFields curve.algorithm) bs k rest ↔
    ∃ point, k = ecdsa curve point ∧ k.HasForm ∧ bs = k.fields ++ rest := by
  have same : readFields curve.algorithm = readEcdsa curve := by
    cases curve <;> rfl
  simp only [same, readEcdsa, takes_bind, takes_guard]
  constructor
  · rintro ⟨⟨_, point⟩, _, taken, rfl, rfl, rfl⟩
    obtain ⟨short, on, rfl⟩ := Curve.takes_readPoint.1 taken
    exact ⟨point, rfl, ⟨short, on⟩, by rw [fields, List.append_assoc]⟩
  · rintro ⟨point, rfl, ⟨short, on⟩, rfl⟩
    have taken : Takes Curve.readPoint ((ecdsa curve point).fields ++ rest) (curve, point) rest :=
      Curve.takes_readPoint.2 ⟨short, on, by rw [fields, List.append_assoc]⟩
    exact ⟨(curve, point), rest, taken, rfl, rfl, rfl⟩

theorem takes_securityEd25519 : Takes (readFields "sk-ssh-ed25519@openssh.com") bs k rest ↔
    ∃ key application, k = securityEd25519 key application ∧ k.HasForm ∧ bs = k.fields ++ rest := by
  simp only [readFields, takes_bind, Wire.takes_readFixed, Wire.takes_readText, takes_pure]
  constructor
  · rintro ⟨key, _, ⟨size, -, rfl⟩, application, _, ⟨short, rfl⟩, rfl, rfl⟩
    exact ⟨key, application, rfl, ⟨size, short⟩, by rw [fields, List.append_assoc]⟩
  · rintro ⟨key, application, rfl, ⟨size, short⟩, rfl⟩
    exact ⟨key, _, ⟨size, by rw [size]; decide, by rw [fields, List.append_assoc]⟩,
      application, rest, ⟨short, rfl⟩, rfl, rfl⟩

theorem takes_securityEcdsa : Takes (readFields "sk-ecdsa-sha2-nistp256@openssh.com") bs k rest ↔
    ∃ point application, k = securityEcdsa point application ∧ k.HasForm ∧
      bs = k.fields ++ rest := by
  simp only [readFields, takes_bind, Curve.takes_read, takes_unless, Wire.takes_readStringUpTo,
    takes_lift, Wire.takes_readText, takes_pure]
  constructor
  · rintro ⟨_, _, rfl, curve, point, _, ⟨within, -, rfl⟩, _, _, ⟨checked, rfl⟩, application, _,
      ⟨short, rfl⟩, rfl, rfl⟩
    rw [not_not] at curve
    subst curve
    exact ⟨point, application, rfl, ⟨within, checked, short⟩,
      by simp only [fields, List.append_assoc]⟩
  · rintro ⟨point, application, rfl, ⟨within, checked, short⟩, rfl⟩
    exact ⟨.p256, _, by simp only [fields, List.append_assoc], by simp, point, _,
      ⟨within, Nat.le_trans within (by decide), rfl⟩, (), _, ⟨checked, rfl⟩, application, rest,
      ⟨short, rfl⟩, rfl, rfl⟩

theorem takes_foreign (unknown : name ∉ knownNames) : Takes (readFields name) bs k rest ↔
    ∃ data, k = foreign name data ∧ isForeignName name = true ∧ data.length ≤ Wire.maxLength ∧
      bs = k.fields ++ rest := by
  have same : readFields name = if isForeignName name then do
      return foreign name (← Wire.readString)
    else throw (.label name) := by
    unfold readFields
    split <;> first | rfl | exact absurd (by decide) unknown
  rw [same]
  split
  · rename_i named
    simp only [takes_bind, Wire.takes_readString, takes_pure]
    constructor
    · rintro ⟨data, _, ⟨short, rfl⟩, rfl, rfl⟩
      exact ⟨data, rfl, named, short, rfl⟩
    · rintro ⟨data, rfl, -, short, rfl⟩
      exact ⟨data, rest, ⟨short, rfl⟩, rfl, rfl⟩
  · rename_i unnamed
    simp [unnamed]

/-! ## Keys -/

theorem of_takes_readFields (taken : Takes (readFields name) bs k rest)
    (short : (Bytes.ofString name).length ≤ Wire.maxNameLength) :
    name ∈ k.names ∧ k.HasForm ∧ bs = k.fields ++ rest := by
  -- The known names are taken one by one; any other is the name of a foreign key.
  by_cases known : name ∈ knownNames
  · simp only [knownNames, List.mem_append, List.mem_cons, List.not_mem_nil, or_false,
      List.mem_map] at known
    rcases known with ((rfl | rfl | rfl | rfl) | named) | ⟨curve, -, rfl⟩
    · obtain ⟨key, rfl, form, rfl⟩ := takes_ed25519.1 taken
      exact ⟨.head _, form, rfl⟩
    · obtain ⟨p, q, g, y, rfl, form, rfl⟩ := takes_dsa.1 taken
      exact ⟨.head _, form, rfl⟩
    · obtain ⟨key, application, rfl, form, rfl⟩ := takes_securityEd25519.1 taken
      exact ⟨.head _, form, rfl⟩
    · obtain ⟨point, application, rfl, form, rfl⟩ := takes_securityEcdsa.1 taken
      exact ⟨.head _, form, rfl⟩
    · obtain ⟨e, n, rfl, form, rfl⟩ := (takes_rsa named).1 taken
      exact ⟨named, form, rfl⟩
    · obtain ⟨point, rfl, form, rfl⟩ := (takes_ecdsa curve).1 taken
      exact ⟨.head _, form, rfl⟩
  · obtain ⟨data, rfl, named, bounded, rfl⟩ := (takes_foreign known).1 taken
    exact ⟨.head _, ⟨known, named, short, bounded⟩, rfl⟩

theorem takes_readFields (named : name ∈ k.names) (form : k.HasForm) :
    Takes (readFields name) (k.fields ++ rest) k rest := by
  cases k with
  | rsa e n => exact (takes_rsa named).2 ⟨e, n, rfl, form, rfl⟩
  | ed25519 key =>
      rw [List.mem_singleton.1 named]
      exact takes_ed25519.2 ⟨key, rfl, form, rfl⟩
  | dsa p q g y =>
      rw [List.mem_singleton.1 named]
      exact takes_dsa.2 ⟨p, q, g, y, rfl, form, rfl⟩
  | ecdsa curve point =>
      rw [List.mem_singleton.1 named]
      exact (takes_ecdsa curve).2 ⟨point, rfl, form, rfl⟩
  | securityEd25519 key application =>
      rw [List.mem_singleton.1 named]
      exact takes_securityEd25519.2 ⟨key, application, rfl, form, rfl⟩
  | securityEcdsa point application =>
      rw [List.mem_singleton.1 named]
      exact takes_securityEcdsa.2 ⟨point, application, rfl, form, rfl⟩
  | foreign name data =>
      obtain ⟨unknown, shaped, -, bounded⟩ := form
      rw [List.mem_singleton.1 named]
      exact (takes_foreign unknown).2 ⟨data, rfl, shaped, bounded, rfl⟩

theorem mem_knownNames (named : name ∈ k.names) :
    name ∈ knownNames ∨ ∃ data, k = foreign name data := by
  cases k with
  | foreign =>
      rw [List.mem_singleton.1 named]
      exact .inr ⟨_, rfl⟩
  | rsa => exact .inl (List.mem_append_left _ (List.mem_append_right _ named))
  | ecdsa curve =>
      rw [List.mem_singleton.1 named]
      exact .inl (List.mem_append_right _ (List.mem_map_of_mem (by cases curve <;> decide)))
  | _ =>
      rw [List.mem_singleton.1 named]
      exact .inl (by simp [knownNames, algorithm])

theorem short_of_mem_names (named : name ∈ k.names) (form : k.HasForm) :
    (Bytes.ofString name).length ≤ Wire.maxNameLength := by
  have short : ∀ name ∈ knownNames, (Bytes.ofString name).length ≤ Wire.maxNameLength := by decide
  rcases mem_knownNames named with known | ⟨data, rfl⟩
  · exact short name known
  · exact form.2.2.1

theorem algorithm_mem_names (k : PublicKey) : k.algorithm ∈ k.names := by
  cases k <;> exact .head _

theorem decode_eq_ok_iff : decode bs = .ok k ↔
    k.HasForm ∧ ∃ name ∈ k.names, ∃ rest, bs = Wire.text name ++ (k.fields ++ rest) := by
  have taken : decode bs = .ok k ↔ ∃ rest, Takes read bs k rest := by
    unfold decode Takes
    cases read.run bs <;> simp [Except.map, Prod.ext_iff]
  simp only [taken, read, takes_bind, Wire.takes_readName]
  constructor
  · rintro ⟨rest, name, _, ⟨short, rfl⟩, fields⟩
    obtain ⟨named, form, rfl⟩ := of_takes_readFields fields short
    exact ⟨form, name, named, rest, rfl⟩
  · rintro ⟨form, name, named, rest, rfl⟩
    exact ⟨rest, name, _, ⟨short_of_mem_names named form, rfl⟩, takes_readFields named form⟩

/-- The canonical form of a key that was read is read as that key. -/
theorem decode_encode (read : decode bs = .ok k) : decode k.encode = .ok k := by
  obtain ⟨form, -⟩ := decode_eq_ok_iff.1 read
  exact decode_eq_ok_iff.2 ⟨form, k.algorithm, k.algorithm_mem_names, [], by
    rw [encode, List.append_nil]⟩

end PublicKey

end GatewayTunnel
