import GatewayTunnel.Proofs.Validation.Checks

namespace GatewayTunnel.Address

variable {a : Address} {host port cs : List Char} {s t : String} {c : Char}

/-! ## Host and port of a text -/

theorem split?_bracketed (closed : ']' ∉ host) :
    split? ('[' :: (host ++ ']' :: ':' :: port)) = some (host, port) := by
  have inside : ∀ c ∈ host, (c != ']') = true := fun c member => by
    rw [bne_iff_ne]
    rintro rfl
    exact closed member
  simp [split?, List.dropWhile_append_of_pos inside, List.takeWhile_append_of_pos inside]

theorem split?_bare (bare : cs.head? ≠ some '[') : split? cs =
    match cs.reverse.dropWhile (· != ':') with
    | ':' :: host => some (host.reverse, (cs.reverse.takeWhile (· != ':')).reverse)
    | _ => none := by
  unfold split?
  split
  · exact absurd rfl bare
  · rfl

theorem split?_plain (bare : host.head? ≠ some '[') (last : ':' ∉ port) :
    split? (host ++ ':' :: port) = some (host, port) := by
  have behind : ∀ c ∈ port.reverse, (c != ':') = true := fun c member => by
    rw [bne_iff_ne]
    rintro rfl
    exact last (List.mem_reverse.1 member)
  have start : (host ++ ':' :: port).head? ≠ some '[' := by
    cases host with
    | nil => simp
    | cons c host => exact bare
  rw [split?_bare start]
  simp [List.dropWhile_append_of_pos behind, List.takeWhile_append_of_pos behind]

theorem split?_eq_some_iff : split? cs = some (host, port) ↔
    (']' ∉ host ∧ cs = '[' :: (host ++ ']' :: ':' :: port)) ∨
    (cs.head? ≠ some '[' ∧ ':' ∉ port ∧ cs = host ++ ':' :: port) := by
  constructor
  · intro cut
    unfold split? at cut
    split at cut
    · rename_i rest
      split at cut
      · rename_i port' after
        obtain ⟨rfl, rfl⟩ := cut
        refine .inl ⟨fun member => ?_, by rw [← after, List.takeWhile_append_dropWhile]⟩
        simpa using List.mem_takeWhile_imp member
      · cases cut
    · rename_i bare
      split at cut
      · rename_i host' after
        obtain ⟨rfl, rfl⟩ := cut
        refine .inr ⟨fun start => ?_, fun member => ?_, ?_⟩
        · obtain ⟨rest, rfl⟩ := List.head?_eq_some_iff.1 start
          exact bare rest rfl
        · simpa using List.mem_takeWhile_imp (List.mem_reverse.1 member)
        · calc cs = (cs.reverse.takeWhile (· != ':') ++ cs.reverse.dropWhile (· != ':')).reverse := by
                rw [List.takeWhile_append_dropWhile, List.reverse_reverse]
            _ = host'.reverse ++ ':' :: (cs.reverse.takeWhile (· != ':')).reverse := by
                rw [after]
                simp
      · cases cut
  · rintro (⟨closed, rfl⟩ | ⟨bare, last, rfl⟩)
    · exact split?_bracketed closed
    · refine split?_plain (fun start => bare ?_) last
      rw [List.head?_append, start, Option.some_or]

theorem mem_of_split? (cut : split? cs = some (host, port)) (member : c ∈ host) :
    c ∈ cs := by
  rcases split?_eq_some_iff.1 cut with ⟨-, rfl⟩ | ⟨-, -, rfl⟩ <;> simp [member]

/-! ## Reading what was written -/

theorem parse?_congr (same : Text.trimmed s.toList = Text.trimmed t.toList) :
    parse? s = parse? t := by
  simp only [parse?, same]

theorem parse?_eq_some_iff : parse? s = some a ↔
    ∃ port, split? (Text.trimmed s.toList) = some (a.host.toList, port) ∧ a.host.toList ≠ [] ∧
      Text.Numeral.read maxPort port = some a.port.toNat := by
  constructor
  · intro read
    unfold parse? at read
    split at read
    · cases read
    · rename_i host port cut
      split at read
      · cases read
      · rename_i filled
        obtain ⟨n, number, rfl⟩ := Option.map_eq_some_iff.1 read
        have small : n < UInt16.size := Nat.lt_succ_of_le (Text.Numeral.le_of_read number)
        refine ⟨port, by rw [cut, String.toList_ofList], by simpa using filled, ?_⟩
        rw [number, UInt16.toNat_ofNat_of_lt' small]
  · rintro ⟨port, cut, filled, number⟩
    have host : a.host.toList.isEmpty = false := by simpa using filled
    simp only [parse?, cut, host, number]
    simp

theorem read_port (p : UInt16) : Text.Numeral.read maxPort (Text.Numeral.digits p.toNat) =
    some p.toNat :=
  Text.Numeral.read_digits (Nat.le_of_lt_succ p.toNat_lt)

theorem renderChars_of_colon (colon : ':' ∈ a.host.toList) : a.renderChars =
    '[' :: (a.host.toList ++ ']' :: ':' :: Text.Numeral.digits a.port.toNat) := by
  simp [renderChars, colon]

theorem renderChars_of_bare (bare : ':' ∉ a.host.toList) : a.renderChars =
    a.host.toList ++ ':' :: Text.Numeral.digits a.port.toNat := by
  simp [renderChars, bare]

theorem trimmed_append_digits {n : Nat}
    (front : ∀ c, (cs ++ ':' :: Text.Numeral.digits n).head? = some c → Text.isBlank c = false) :
    Text.trimmed (cs ++ ':' :: Text.Numeral.digits n) = cs ++ ':' :: Text.Numeral.digits n := by
  refine Text.trimmed_eq_self front fun c last => ?_
  have inside : c ∈ Text.Numeral.digits n := by
    refine List.mem_of_getLast? ?_
    rw [← last, List.getLast?_append, List.getLast?_cons]
    simp [List.getLast?_eq_some_getLast (Text.Numeral.digits_ne_nil n)]
  exact Validation.isBlank_of_isHostChar
    (Validation.isHostChar_of_isDigit (Text.Numeral.isDigit_of_mem_digits inside))

theorem trimmed_renderChars (front : ∀ c, a.renderChars.head? = some c → Text.isBlank c = false) :
    Text.trimmed a.renderChars = a.renderChars :=
  trimmed_append_digits front

theorem parse?_of_split? (front : ∀ c, a.renderChars.head? = some c → Text.isBlank c = false)
    (filled : a.host.toList ≠ []) (cut : split? a.renderChars =
      some (a.host.toList, Text.Numeral.digits a.port.toNat)) : parse? a.render = some a := by
  refine parse?_eq_some_iff.2 ⟨Text.Numeral.digits a.port.toNat, ?_, filled, read_port a.port⟩
  rw [render, String.toList_ofList, trimmed_renderChars front, cut]

theorem parse?_render (filled : a.host.toList ≠ [])
    (closed : ':' ∈ a.host.toList → ']' ∉ a.host.toList)
    (bare : ':' ∉ a.host.toList →
      ∀ c, a.host.toList.head? = some c → c ≠ '[' ∧ Text.isBlank c = false) :
    parse? a.render = some a := by
  by_cases colon : ':' ∈ a.host.toList
  · have shape := renderChars_of_colon colon
    refine parse?_of_split? ?_ filled (by rw [shape, split?_bracketed (closed colon)])
    rw [shape]
    rintro _ ⟨⟩
    rfl
  · have shape := renderChars_of_bare colon
    obtain ⟨c, rest, start⟩ := List.exists_cons_of_ne_nil filled
    obtain ⟨open_, visible⟩ := bare colon c (by rw [start]; rfl)
    have last : ':' ∉ Text.Numeral.digits a.port.toNat := fun member =>
      absurd (Text.Numeral.isDigit_of_mem_digits member) (by decide)
    refine parse?_of_split? ?_ filled ?_
    · rw [shape, start]
      rintro _ ⟨⟩
      exact visible
    · rw [shape, split?_plain (by simp [start, open_]) last]

/-! ## Accepted addresses -/

theorem not_mem_host (valid : Validation.checkHost a.host = .ok ())
    (other : Validation.isHostChar c = false) (visible : Text.isBlank c = false) : c ∉ a.host.toList := by
  intro member
  have fits := Validation.isHostChar_of_isHost (Validation.checkHost_eq_ok_iff.1 valid).2.2 c
    ((Text.mem_trimmed_iff visible).2 member)
  rw [other] at fits
  cases fits

/-- The address without the blanks at the start of its host, unless brackets would keep them. -/
def bared (a : Address) : Address :=
  if ':' ∈ a.host.toList then a else ⟨String.ofList (Text.trimStart a.host.toList), a.port⟩

/-- Of a checked address, blanks at the start of the host are lost on the way through the written form. -/
theorem parse?_render_of_checkHost (valid : Validation.checkHost a.host = .ok ()) :
    parse? a.render = some a.bared := by
  have closed : ']' ∉ a.host.toList := not_mem_host valid rfl rfl
  obtain ⟨filled, -, host⟩ := Validation.checkHost_eq_ok_iff.1 valid
  unfold bared
  by_cases colon : ':' ∈ a.host.toList
  · rw [if_pos colon]
    refine parse?_render ?_ (fun _ => closed) fun bare => absurd colon bare
    rintro empty
    simp [empty] at colon
  · rw [if_neg colon]
    obtain ⟨c, rest, start⟩ := List.exists_cons_of_ne_nil filled
    obtain ⟨back, whole⟩ := Text.trimmed_prefix a.host.toList
    rw [start, List.cons_append] at whole
    have fits : Validation.isHostChar c = true :=
      Validation.isHostChar_of_isHost host c (by rw [start]; exact List.mem_cons_self)
    have visible := Validation.isBlank_of_isHostChar fits
    have bare : ':' ∉ Text.trimStart a.host.toList := fun member =>
      colon ((Text.mem_dropWhile_isBlank rfl).1 member)
    let b : Address := ⟨String.ofList (Text.trimStart a.host.toList), a.port⟩
    -- Reading trims the whole text, so the blanks in front of the host do not count.
    have same : parse? a.render = parse? b.render := by
      refine parse?_congr ?_
      simp only [render, renderChars, String.toList_ofList, List.contains_eq_mem, colon, bare, b,
        decide_false, Bool.false_eq_true, if_false, Text.trimmed_trimStart_append]
    have front : b.host.toList = c :: (rest ++ back) := by rw [whole, String.toList_ofList]
    rw [same]
    refine parse?_render (by simp [front]) ?_ fun _ d first => ?_
    · intro member
      rw [String.toList_ofList] at member
      exact absurd member bare
    · rw [front] at first
      obtain rfl := Option.some.inj first
      refine ⟨?_, visible⟩
      rintro rfl
      cases fits

theorem bared_eq_self (trimmed : Text.trim a.host = a.host) : a.bared = a := by
  have start : Text.trimStart a.host.toList = a.host.toList := by
    rw [← trimmed, Text.trim, String.toList_ofList, Text.trimStart_trimmed]
  simp [bared, start]

/-- What the check accepts is what the text reads as: a port that is not 0 and a host that is one but for
blanks around it, which are kept. Only blanks before it can be lost when the address is written and read
again; a host without blanks around it, as every text without blanks inside has it, reads back. -/
theorem accepted_reads_back (accepted : Validation.checkAddress s = .ok a) :
    Destination.parseTcp? s = some ⟨.tcp, a⟩ ∧ a.port ≠ 0 ∧
    Validation.IsHost (Text.trimmed a.host.toList) ∧
    Destination.parseTcp? (Destination.render ⟨.tcp, a⟩) = some ⟨.tcp, a.bared⟩ ∧
    (Text.trim a.host = a.host → Validation.IsHost a.host.toList ∧
      Destination.parseTcp? (Destination.render ⟨.tcp, a⟩) = some ⟨.tcp, a⟩) ∧
    ((∀ c ∈ Text.trimmed s.toList, Text.isBlank c = false) → Text.trim a.host = a.host) := by
  obtain ⟨read, valid, port⟩ := Validation.checkAddress_eq_ok_iff.1 accepted
  have host := (Validation.checkHost_eq_ok_iff.1 valid).2.2
  have back : Destination.parseTcp? (Destination.render ⟨.tcp, a⟩) = some ⟨.tcp, a.bared⟩ := by
    simp [Destination.parseTcp?, Destination.render, parse?_render_of_checkHost valid]
  refine ⟨by simp [Destination.parseTcp?, read], port, host, back, fun trimmed => ⟨?_, ?_⟩,
    fun plain => ?_⟩
  · rwa [← trimmed, Text.trim, String.toList_ofList]
  · rw [back, bared_eq_self trimmed]
  · obtain ⟨port, cut, -⟩ := parse?_eq_some_iff.1 read
    have visible : ∀ c ∈ a.host.toList, Text.isBlank c = false := fun c member =>
      plain c (mem_of_split? cut member)
    rw [Text.trim, Text.trimmed_eq_self, String.ofList_toList]
    · exact fun c first => visible c (List.mem_of_head? first)
    · exact fun c last => visible c (List.mem_of_getLast? last)

theorem accepted_reads_back_padded :
    Validation.checkAddress " [ ::1]:080" = .ok ⟨" ::1", 80⟩ ∧
    Destination.parseTcp? " [ ::1]:080" = some ⟨.tcp, ⟨" ::1", 80⟩⟩ ∧
    Destination.parseTcp? (Destination.render ⟨.tcp, ⟨" ::1", 80⟩⟩) = some ⟨.tcp, ⟨" ::1", 80⟩⟩ := by
  have accepted : Validation.checkAddress " [ ::1]:080" = .ok ⟨" ::1", 80⟩ := by decide +kernel
  obtain ⟨read, -, -, back, -⟩ := accepted_reads_back accepted
  exact ⟨accepted, read, back⟩

/-- Blanks inside brackets pass the check, stay with the host, and are lost in part when it is written. -/
theorem padded_host_accepted :
    Validation.checkAddress "[ host ]:80" = .ok ⟨" host ", 80⟩ ∧
    ¬Validation.IsHost " host ".toList ∧
    Destination.parseTcp? (Destination.render ⟨.tcp, ⟨" host ", 80⟩⟩) = some ⟨.tcp, ⟨"host ", 80⟩⟩ := by
  refine ⟨by decide +kernel, fun host => ?_, by decide +kernel⟩
  exact absurd (Validation.isHostChar_of_isHost host ' ' (by decide)) (by decide)

end GatewayTunnel.Address
