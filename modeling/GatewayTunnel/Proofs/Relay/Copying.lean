import GatewayTunnel.Relay.Copy
import Mathlib.Data.List.Basic

namespace GatewayTunnel.Copy

variable {c c' : Copy} {i : Input} {is : List Input}

def run (c : Copy) : List Input → Option Copy
  | [] => some c
  | i :: rest => (c.step i).bind fun c => c.run rest

def delivered (is : List Input) : Bytes :=
  is.flatMap given

def accepted (c : Copy) : List Input → Bytes
  | [] => []
  | i :: rest => c.taken i ++ ((c.step i).elim [] fun c => c.accepted rest)

inductive Call where
  | read
  | write (bs : Bytes)
  | flush
  | shutdown
  deriving DecidableEq

def call? : Copy → Option Call
  | reading _ => some .read
  | writing _ _ rest => some (.write rest)
  | flushing .. => some .flush
  | halfClosing _ => some .shutdown
  | ended _ => none

def calls (c : Copy) : List Input → List Call
  | [] => c.call?.toList
  | i :: rest => c.call?.toList ++ ((c.step i).elim [] fun c => c.calls rest)

def Call.gets : Call → Input → Bool
  | read, .chunk bs => 0 < bs.length ∧ bs.length ≤ bufferSize
  | read, .eof | read, .readFailed _ => true
  | write _, .accepted _ | write _, .writeFailed _ => true
  | flush, .flushed | flush, .flushFailed _ => true
  | shutdown, .halfClosed => true
  | _, _ => false

theorem step_isSome_iff : (c.step i).isSome ↔ ∃ call, c.call? = some call ∧ call.gets i := by
  cases c with
  | writing total size rest =>
      cases i with
      | accepted bound =>
          have moved : ((writing total size rest).step (.accepted bound)).isSome := by
            cases bound with
            | zero => rfl
            | succ bound =>
                simp only [step]
                split <;> rfl
          simp [moved, call?, Call.gets]
      | _ => simp [step, call?, Call.gets]
  | _ => cases i <;> simp [step, call?, Call.gets]

/-! ## One answer -/

def pending : Copy → Bytes
  | writing _ _ rest => rest
  | _ => []

def count : Copy → Nat
  | reading total | halfClosing total | ended (.ok total) => total
  | writing total size _ | flushing total size => total + size
  | ended (.error _) => 0

def isBusy : Copy → Bool
  | writing .. | flushing .. => true
  | _ => false

def atEnd : Copy → Bool
  | halfClosing _ | ended (.ok _) => true
  | _ => false

inductive Turn : Copy → Input → Copy → Prop where
  | read {total : Nat} {bs : Bytes} : 0 < bs.length → bs.length ≤ bufferSize →
      Turn (reading total) (.chunk bs) (writing total bs.length bs)
  | eof {total : Nat} : Turn (reading total) .eof (halfClosing total)
  | wrote {total size bound : Nat} {rest : Bytes} : bound ≠ 0 → rest.drop bound ≠ [] →
      Turn (writing total size rest) (.accepted bound) (writing total size (rest.drop bound))
  | wroteAll {total size bound : Nat} {rest : Bytes} : bound ≠ 0 → rest.drop bound = [] →
      Turn (writing total size rest) (.accepted bound) (flushing total size)
  | flushed {total size : Nat} : Turn (flushing total size) .flushed (reading (total + size))
  | halfClosed {total : Nat} : Turn (halfClosing total) .halfClosed (ended (.ok total))
  | failed {c : Copy} {i : Input} {e : IoError} : c.atEnd = false → c.taken i = [] →
      given i = [] → Turn c i (ended (.error e))

theorem Turn.of_step (h : c.step i = some c') : Turn c i c' := by
  unfold step at h
  split at h
  · split at h
    · rename_i size
      cases h
      exact .read size.1 size.2
    · cases h
  · cases h
    exact .eof
  · cases h
    exact .failed rfl rfl rfl
  · cases h
    exact .failed rfl (by simp [taken]) rfl
  · rename_i bound positive
    split at h
    · rename_i all
      cases h
      exact .wroteAll positive all
    · rename_i more
      cases h
      exact .wrote positive more
  · cases h
    exact .failed rfl rfl rfl
  · cases h
    exact .flushed
  · cases h
    exact .failed rfl rfl rfl
  · cases h
    exact .halfClosed
  · cases h

theorem run_ended {r : Except IoError Nat} (h : (ended r).run is = some c) : is = [] ∧ c = ended r := by
  cases is with
  | nil =>
      cases h
      exact ⟨rfl, rfl⟩
  | cons i rest => cases i <;> cases h

theorem Turn.balance (turn : Turn c i c') :
    (∃ e, c' = ended (.error e)) ∧ c.taken i = [] ∨
      c.pending ++ given i = c.taken i ++ c'.pending ∧ c'.count = c.count + (given i).length := by
  cases turn with
  | read => exact .inr ⟨by simp [pending, given, taken], by simp [count, given]⟩
  | eof => exact .inr ⟨rfl, rfl⟩
  | @wrote _ _ bound rest => exact .inr ⟨by simp [pending, given, taken], rfl⟩
  | @wroteAll _ _ bound rest _ all =>
      have whole : rest = rest.take bound := by simpa [all] using (rest.take_append_drop bound).symm
      exact .inr ⟨by simp [pending, given, taken, ← whole], rfl⟩
  | flushed => exact .inr ⟨rfl, rfl⟩
  | halfClosed => exact .inr ⟨rfl, rfl⟩
  | failed _ none _ => exact .inl ⟨⟨_, rfl⟩, none⟩

/-! ## A run -/

theorem run_append (c : Copy) (is js : List Input) :
    c.run (is ++ js) = (c.run is).bind fun c => c.run js := by
  induction is generalizing c with
  | nil => rfl
  | cons i rest ih => cases next : c.step i <;> simp [run, next, ih]

theorem run_last (h : c.run is = some c') (moved : c ≠ c') :
    ∃ front i b, is = front ++ [i] ∧ c.run front = some b ∧ b.step i = some c' := by
  obtain rfl | ⟨front, i, rfl⟩ := is.eq_nil_or_concat'
  · exact absurd (Option.some.inj h) moved
  · rw [run_append, Option.bind_eq_some_iff] at h
    obtain ⟨b, before, last⟩ := h
    exact ⟨front, i, b, rfl, before, by simpa [run] using last⟩

theorem run_balance (h : c.run is = some c') :
    (∃ e, c' = ended (.error e)) ∧ accepted c is <+: c.pending ++ delivered is ∨
      c.pending ++ delivered is = accepted c is ++ c'.pending ∧
        c'.count = c.count + (delivered is).length := by
  induction is generalizing c with
  | nil =>
      cases h
      exact .inr ⟨by simp [delivered, accepted], by simp [delivered]⟩
  | cons i rest ih =>
      obtain ⟨b, first, others⟩ := Option.bind_eq_some_iff.1 h
      have given_cons : delivered (i :: rest) = given i ++ delivered rest := List.flatMap_cons
      have taken_cons : accepted c (i :: rest) = c.taken i ++ accepted b rest := by
        simp [accepted, first]
      rw [given_cons, taken_cons]
      rcases (Turn.of_step first).balance with ⟨⟨e, rfl⟩, none⟩ | ⟨bytes, counted⟩
      · -- nothing comes after a failure
        obtain ⟨rfl, rfl⟩ := run_ended others
        exact .inl ⟨⟨e, rfl⟩, by simp [none, accepted]⟩
      · rw [← List.append_assoc, bytes, List.append_assoc]
        rcases ih others with ⟨failed, part⟩ | ⟨bytes', counted'⟩
        · exact .inl ⟨failed, (List.prefix_append_right_inj _).2 part⟩
        · refine .inr ⟨by rw [bytes', List.append_assoc], ?_⟩
          rw [counted', counted, List.length_append]
          omega

theorem flushed_of_run {total : Nat} (busy : c.isBusy) (h : c.run is = some (reading total)) :
    .flushed ∈ is := by
  induction is generalizing c with
  | nil =>
      cases h
      cases busy
  | cons i rest ih =>
      obtain ⟨b, first, others⟩ := Option.bind_eq_some_iff.1 h
      cases Turn.of_step first with
      | read | eof | halfClosed => cases busy
      | wrote | wroteAll => exact List.mem_cons_of_mem _ (ih rfl others)
      | flushed => exact List.mem_cons_self
      | failed => cases (run_ended others).2

theorem flushed_of_accepted {bound total : Nat}
    (h : c.run (.accepted bound :: is) = some (reading total)) : .flushed ∈ is := by
  obtain ⟨b, first, others⟩ := Option.bind_eq_some_iff.1 h
  cases Turn.of_step first with
  | wrote | wroteAll => exact flushed_of_run rfl others
  | failed => cases (run_ended others).2

theorem run_atEnd (past : c.atEnd) (h : c.run is = some c') : c'.atEnd := by
  induction is generalizing c with
  | nil =>
      cases h
      exact past
  | cons i rest ih =>
      obtain ⟨b, first, others⟩ := Option.bind_eq_some_iff.1 h
      refine ih ?_ others
      cases Turn.of_step first with
      | read | eof | wrote | wroteAll | flushed => cases past
      | halfClosed => rfl
      | failed notEnd =>
          rw [past] at notEnd
          cases notEnd

theorem not_reading_of_eof {total : Nat} : c.run (.eof :: is) ≠ some (reading total) := by
  intro h
  obtain ⟨b, first, others⟩ := Option.bind_eq_some_iff.1 h
  cases Turn.of_step first with
  | eof => cases run_atEnd rfl others
  | failed => cases (run_ended others).2

theorem shutdown_not_mem_calls (h : c.run is = some c') (before : c'.atEnd = false) :
    .shutdown ∉ c.calls is := by
  have notNow : ∀ {b : Copy} {js : List Input}, b.run js = some c' → .shutdown ∉ b.call?.toList := by
    intro b js run called
    cases b with
    | halfClosing total => simp [run_atEnd rfl run] at before
    | _ => simp [call?] at called
  induction is generalizing c with
  | nil => simpa [calls] using notNow h
  | cons i rest ih =>
      obtain ⟨b, first, others⟩ := Option.bind_eq_some_iff.1 h
      simp only [calls, first, Option.elim_some, List.mem_append, not_or]
      exact ⟨notNow h, ih others⟩

theorem calls_snoc (h : c.run is = some c') {c'' : Copy} (next : c'.step i = some c'') :
    c.calls (is ++ [i]) = c.calls is ++ c''.call?.toList := by
  induction is generalizing c with
  | nil =>
      cases h
      simp [calls, next]
  | cons j rest ih =>
      obtain ⟨b, first, others⟩ := Option.bind_eq_some_iff.1 h
      simp [calls, first, ih others]

/-! ## What is true of every direction -/

/-- The answers have taken a direction to its good end, with a count. -/
structure Complete (is : List Input) (n : Nat) : Prop where
  all : accepted .start is = delivered is
  counted : n = (delivered is).length
  /-- The end of the source, after which nothing is left but to close the sink. -/
  closed : ∃ front, is = front ++ [.eof, .halfClosed] ∧ .eof ∉ front ∧
    (∀ pre bound post, front = pre ++ .accepted bound :: post → .flushed ∈ post) ∧
    calls .start is = calls .start front ++ [.shutdown] ∧ .shutdown ∉ calls .start front

/-- The answers have taken a direction to where it is, and no byte is out of its place. -/
structure Faithful (is : List Input) (c : Copy) : Prop where
  initial : accepted .start is <+: delivered is
  complete : ∀ n, c = ended (.ok n) → Complete is n
  unclosed : ∀ e, c = ended (.error e) → .shutdown ∉ calls .start is

theorem complete_of_run {n : Nat} (h : run .start is = some (ended (.ok n))) : Complete is n := by
  obtain ⟨all, counted⟩ : accepted .start is = delivered is ∧ n = (delivered is).length := by
    rcases run_balance h with ⟨⟨e, failed⟩, _⟩ | ⟨bytes, counted⟩
    · cases failed
    · exact ⟨by simpa [start, pending] using bytes.symm, by simpa [start, count] using counted⟩
  refine ⟨all, counted, ?_⟩
  obtain ⟨_, _, b, rfl, closing, last⟩ := run_last h nofun
  cases Turn.of_step last with
  | halfClosed =>
    obtain ⟨front, _, b, rfl, open_, eof⟩ := run_last closing nofun
    cases Turn.of_step eof with
    | eof =>
      refine ⟨front, by simp, fun ended => ?_, ?_, ?_, shutdown_not_mem_calls open_ rfl⟩
      · obtain ⟨pre, post, rfl⟩ := List.append_of_mem ended
        rw [run_append, Option.bind_eq_some_iff] at open_
        obtain ⟨b, _, others⟩ := open_
        exact not_reading_of_eof others
      · rintro pre bound post rfl
        rw [run_append, Option.bind_eq_some_iff] at open_
        obtain ⟨b, _, others⟩ := open_
        exact flushed_of_accepted others
      · rw [calls_snoc closing last, calls_snoc open_ eof]
        simp [call?]

theorem faithful_of_run (h : run .start is = some c) : Faithful is c where
  initial := by
    rcases run_balance h with ⟨_, part⟩ | ⟨bytes, _⟩
    · exact part
    · exact ⟨_, bytes.symm⟩
  complete n ended := complete_of_run (ended ▸ h)
  unclosed e ended := shutdown_not_mem_calls h (ended ▸ rfl)

end GatewayTunnel.Copy
