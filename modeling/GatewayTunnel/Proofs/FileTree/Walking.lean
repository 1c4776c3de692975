import GatewayTunnel.FileTree
import GatewayTunnel.Proofs.Entries
import Mathlib.Data.List.Induction

namespace GatewayTunnel

namespace Node

@[simp] theorem withMode_withMode (n : Node) (mode mode' : Nat) :
    (n.withMode mode).withMode mode' = n.withMode mode' := by
  cases n <;> rfl

end Node

namespace FileTree

variable {t t' : FileTree} {p q r : Place} {n : Node} {name path : String} {names' : List String}

theorem node?_put (t : FileTree) (p : Place) (n : Node) (q : Place) :
    (t.put p n).node? q = if p = q then some n else t.node? q := by
  rw [node?, put, lookup_replaced]
  split <;> rfl

@[simp] theorem node?_put_self : (t.put p n).node? p = some n := by
  rw [node?_put, if_pos rfl]

theorem node?_put_of_ne (other : p ≠ q) : (t.put p n).node? q = t.node? q := by
  rw [node?_put, if_neg other]

def HasDirectory (t : FileTree) (p : Place) : Prop :=
  ∃ mode, t.node? p = some (.directory mode)

theorem HasDirectory.put {mode : Nat} (directory : t.HasDirectory q) :
    (t.put p (.directory mode)).HasDirectory q := by
  by_cases same : p = q
  · subst same
    exact ⟨mode, node?_put_self⟩
  · obtain ⟨mode', there⟩ := directory
    exact ⟨mode', (node?_put_of_ne same).trans there⟩

def Rooted (t : FileTree) : Prop :=
  ∀ p name n, t.node? (p ++ [name]) = some n → t.HasDirectory p

theorem Rooted.exists_above (rooted : t.Rooted) (up : p <+: q) (there : t.node? q = some n) :
    ∃ n', t.node? p = some n' := by
  obtain ⟨rest, rfl⟩ := up
  induction rest using List.reverseRecOn generalizing n with
  | nil => exact ⟨n, by simpa using there⟩
  | append_singleton rest name ih =>
      rw [← List.append_assoc] at there
      obtain ⟨mode, above⟩ := rooted _ _ _ there
      exact ih above

theorem rooted_empty (current : Place) : Rooted ⟨[], current⟩ := by
  intro p name n there
  simp [node?] at there

theorem Rooted.put {mode : Nat} (rooted : t.Rooted)
    (within : ∀ above name, p = above ++ [name] → t.HasDirectory above) :
    (t.put p (.directory mode)).Rooted := by
  intro q name n there
  apply HasDirectory.put
  by_cases same : p = q ++ [name]
  · exact within q name same
  · rw [node?_put_of_ne same] at there
    exact rooted q name n there

/-! ## Names -/

inductive Turn (p : Place) : String → Place → Prop where
  | stay {name : String} : isIdle name = true → Turn p name p
  | up : Turn p ".." p.dropLast
  | down {name : String} : isIdle name = false → name ≠ ".." → name.utf8ByteSize ≤ maxName →
      Turn p name (p ++ [name])

theorem enter_eq_ok_iff : t.enter p name = .ok q ↔ t.HasDirectory p ∧ Turn p name q := by
  constructor
  · intro entered
    unfold enter at entered
    split at entered
    · cases entered
    · cases entered
    · rename_i mode there
      refine ⟨⟨mode, there⟩, ?_⟩
      split at entered
      · cases entered
        exact .stay ‹_›
      · split at entered
        · cases entered
          obtain rfl := beq_iff_eq.1 ‹(name == "..") = true›
          exact .up
        · split at entered
          · cases entered
          · cases entered
            exact .down (eq_false_of_ne_true ‹_›) (by simpa using ‹¬(name == "..") = true›)
              (Nat.not_lt.1 ‹_›)
  · rintro ⟨⟨mode, there⟩, turn⟩
    cases turn with
    | stay idle => simp [enter, there, idle]
    | up => simp [enter, there, isIdle]
    | down idle other short => simp [enter, there, idle, other, Nat.not_lt.2 short]

theorem Turn.goesDown (turn : Turn p name q) (other : name ≠ "..") : p <+: q := by
  cases turn with
  | stay => exact List.prefix_rfl
  | up => exact absurd rfl other
  | down => exact List.prefix_append _ _

/-! ## Paths -/

inductive Leads (t : FileTree) : Place → List String → Place → Prop where
  | here {p : Place} : Leads t p [] p
  | go {p q r : Place} {name : String} {names : List String} : t.HasDirectory p → Turn p name q →
      Leads t q names r → Leads t p (name :: names) r

theorem foldlM_enter_iff : names'.foldlM t.enter p = .ok q ↔ Leads t p names' q := by
  constructor
  · intro walked
    induction names' generalizing p with
    | nil =>
        cases walked
        exact .here
    | cons name names ih =>
        rw [List.foldlM_cons] at walked
        cases entered : t.enter p name with
        | error e =>
            rw [entered] at walked
            cases walked
        | ok p' =>
            rw [entered] at walked
            obtain ⟨directory, turn⟩ := enter_eq_ok_iff.1 entered
            exact .go directory turn (ih walked)
  · intro leads
    induction leads with
    | here => rfl
    | go directory turn _ ih =>
        rw [List.foldlM_cons, enter_eq_ok_iff.2 ⟨directory, turn⟩]
        exact ih

theorem Leads.append {more : List String} (leads : Leads t p names' q) (on : Leads t q more r) :
    Leads t p (names' ++ more) r := by
  induction leads with
  | here => exact on
  | go directory turn _ ih => exact .go directory turn (ih on)

theorem Leads.mono (kept : ∀ p, t.HasDirectory p → t'.HasDirectory p) (leads : Leads t p names' q) :
    Leads t' p names' q := by
  induction leads with
  | here => exact .here
  | go directory turn _ ih => exact .go (kept _ directory) turn ih

theorem Leads.goesDown (leads : Leads t p names' q) (down : ".." ∉ names') : p <+: q := by
  induction leads with
  | here => exact List.prefix_rfl
  | go _ turn _ ih =>
      have step := turn.goesDown (List.ne_of_not_mem_cons down).symm
      exact step.trans (ih (List.not_mem_of_not_mem_cons down))

theorem Leads.back (rooted : t.Rooted) (kept : ∀ p n, t.node? p = some n → t'.node? p = some n)
    (leads : Leads t' p names' q) (down : ".." ∉ names') (there : t.node? q = some n) :
    Leads t p names' q := by
  induction leads with
  | here => exact .here
  | @go p q r name names directory turn rest ih =>
      have up : p <+: r := (Leads.go directory turn rest).goesDown down
      obtain ⟨n', above⟩ := rooted.exists_above up there
      obtain ⟨mode, same⟩ := directory
      obtain rfl := Option.some.inj ((kept _ _ above).symm.trans same)
      exact .go ⟨mode, above⟩ turn (ih (List.not_mem_of_not_mem_cons down) there)

def origin (t : FileTree) (path : String) : Place :=
  if isAbsolute path then [] else t.current

theorem walk_eq_ok_iff : t.walk path names' = .ok p ↔ Leads t (t.origin path) names' p :=
  foldlM_enter_iff

theorem find_eq_ok_iff : t.find path = .ok (p, n) ↔
    path.isEmpty = false ∧ Leads t (t.origin path) (names path) p ∧ t.node? p = some n := by
  rw [← walk_eq_ok_iff]
  unfold find
  cases path.isEmpty with
  | true => exact iff_of_false nofun nofun
  | false =>
      cases t.walk path (names path) with
      | error e => exact iff_of_false nofun nofun
      | ok q =>
          dsimp only [bind, Except.bind, pure, Except.pure]
          cases there : t.node? q with
          | none =>
              refine iff_of_false nofun ?_
              rintro ⟨-, same, other⟩
              cases same
              rw [there] at other
              cases other
          | some node =>
              constructor
              · intro found
                cases found
                exact ⟨rfl, rfl, there⟩
              · rintro ⟨-, same, other⟩
                cases same
                rw [there] at other
                cases other
                rfl

theorem isPresent_iff : t.isPresent path = true ↔ ∃ p n, t.find path = .ok (p, n) := by
  unfold isPresent
  cases t.find path with
  | error => exact iff_of_false nofun nofun
  | ok found => exact iff_of_true rfl ⟨found.1, found.2, rfl⟩

theorem isDirectory_iff :
    t.isDirectory path = true ↔ ∃ p mode, t.find path = .ok (p, .directory mode) := by
  unfold isDirectory
  cases t.find path with
  | error => exact iff_of_false nofun nofun
  | ok found =>
      obtain ⟨p, n⟩ := found
      cases n with
      | file => exact iff_of_false nofun (by rintro ⟨p, mode, ⟨⟩⟩)
      | directory mode => exact iff_of_true rfl ⟨p, mode, rfl⟩

theorem find_mono {n' : Node} (current : t'.current = t.current)
    (kept : ∀ p, t.HasDirectory p → t'.HasDirectory p) (found : t.find path = .ok (p, n))
    (there : t'.node? p = some n') : t'.find path = .ok (p, n') := by
  obtain ⟨filled, leads, -⟩ := find_eq_ok_iff.1 found
  refine find_eq_ok_iff.2 ⟨filled, ?_, there⟩
  rw [origin, current]
  exact leads.mono kept

end FileTree

end GatewayTunnel
