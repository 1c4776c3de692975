import GatewayTunnel.Proofs.Address.Reading

namespace GatewayTunnel.Address

variable {a : Address} {host port : List Char}

theorem takeWhile_colon (bare : ':' ∉ host) : (host ++ ':' :: port).takeWhile (· != ':') = host := by
  have front : ∀ c ∈ host, (c != ':') = true := fun c member => by
    rw [bne_iff_ne]
    rintro rfl
    exact bare member
  simp [List.takeWhile_append_of_pos front]

theorem trimmed_renderChars_of_bare (bare : ':' ∉ a.host.toList) : Text.trimmed a.renderChars =
    Text.trimStart a.host.toList ++ ':' :: Text.Numeral.digits a.port.toNat := by
  rw [renderChars_of_bare bare, ← Text.trimmed_trimStart_append]
  refine trimmed_append_digits fun c first => ?_
  cases left : Text.trimStart a.host.toList with
  | nil =>
      rw [left] at first
      cases first
      rfl
  | cons d rest =>
      rw [left] at first
      cases first
      exact Text.isBlank_of_trimStart left

theorem closed_of_reads_back (back : parse? a.render = some a) (colon : ':' ∈ a.host.toList) :
    ']' ∉ a.host.toList := by
  obtain ⟨port, cut, -⟩ := parse?_eq_some_iff.1 back
  have whole : Text.trimmed a.renderChars = a.renderChars := by
    refine trimmed_renderChars ?_
    rw [renderChars_of_colon colon]
    rintro _ ⟨⟩
    rfl
  rw [render, String.toList_ofList, whole, renderChars_of_colon colon] at cut
  rcases split?_eq_some_iff.1 cut with ⟨closed, -⟩ | ⟨bare, -⟩
  · exact closed
  · exact absurd rfl bare

theorem front_of_reads_back (back : parse? a.render = some a) (bare : ':' ∉ a.host.toList) :
    Text.trimStart a.host.toList = a.host.toList ∧ a.host.toList.head? ≠ some '[' := by
  obtain ⟨port, cut, -⟩ := parse?_eq_some_iff.1 back
  rw [render, String.toList_ofList, trimmed_renderChars_of_bare bare] at cut
  have start : ':' ∉ Text.trimStart a.host.toList := fun member =>
    bare ((Text.mem_dropWhile_isBlank rfl).1 member)
  rcases split?_eq_some_iff.1 cut with ⟨-, shape⟩ | ⟨first, -, shape⟩
  · -- Up to the colon, a host in brackets would be longer than the host that was written.
    have piece : Text.trimStart a.host.toList = '[' :: (a.host.toList ++ [']']) := by
      have bracketed : ':' ∉ '[' :: (a.host.toList ++ [']']) := by simp [bare]
      have whole : '[' :: (a.host.toList ++ ']' :: ':' :: port) =
          '[' :: (a.host.toList ++ [']']) ++ ':' :: port := by simp
      rw [← takeWhile_colon start, shape, whole, takeWhile_colon bracketed]
    have shorter := (List.dropWhile_sublist Text.isBlank (l := a.host.toList)).length_le
    rw [← Text.trimStart, piece, List.length_cons, List.length_append] at shorter
    omega
  · have same : Text.trimStart a.host.toList = a.host.toList := by
      rw [← takeWhile_colon start, shape, takeWhile_colon bare]
    refine ⟨same, fun opened => first ?_⟩
    rw [same, List.head?_append, opened, Option.some_or]

/-- A destination reads back from its written form if and only if its host is not empty and, with a colon
in it, has no closing bracket, or, without one, begins with neither an opening bracket nor a blank. -/
theorem reads_back_iff (host : String) (port : UInt16) :
    Destination.parseTcp? (Destination.tcp host port).render = some (Destination.tcp host port) ↔
      host ≠ "" ∧ (':' ∈ host.toList → ']' ∉ host.toList) ∧
      (':' ∉ host.toList → ∀ c, host.toList.head? = some c → c ≠ '[' ∧ Text.isBlank c = false) := by
  have filled : host ≠ "" ↔ host.toList ≠ [] := by simp
  have same : Destination.parseTcp? (Destination.tcp host port).render =
      some (Destination.tcp host port) ↔ parse? (render ⟨host, port⟩) = some ⟨host, port⟩ := by
    simp [Destination.parseTcp?, Destination.render, Destination.tcp]
  rw [same, filled]
  constructor
  · intro back
    obtain ⟨-, -, some, -⟩ := parse?_eq_some_iff.1 back
    refine ⟨some, closed_of_reads_back back, fun bare c first => ?_⟩
    obtain ⟨start, opened⟩ := front_of_reads_back back bare
    obtain ⟨rest, whole⟩ := List.head?_eq_some_iff.1 first
    refine ⟨?_, Text.isBlank_of_trimStart (start.trans whole)⟩
    rintro rfl
    exact opened first
  · rintro ⟨some, closed, bare⟩
    exact parse?_render some closed bare

end GatewayTunnel.Address
