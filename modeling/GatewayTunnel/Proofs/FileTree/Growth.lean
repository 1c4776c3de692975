import GatewayTunnel.Proofs.FileTree.Walking

namespace GatewayTunnel.FileTree

variable {α β : Type} {t t' t'' : FileTree} {p : Place} {n : Node} {path : String} {mode : Nat}

/-! ## Changes as functions -/

def Change.on (c : Change α) (t : FileTree) : Except IoError α × FileTree :=
  c.run.run t

@[simp] theorem on_pure (a : α) : Change.on (pure a) t = (.ok a, t) := rfl

@[simp] theorem on_get : Change.on get t = (.ok t, t) := rfl

@[simp] theorem on_ofExcept (r : Except IoError α) : (ofExcept r).on t = (r, t) := rfl

theorem on_bind (c : Change α) (f : α → Change β) : Change.on (c >>= f) t = match c.on t with
    | (.ok a, t') => (f a).on t'
    | (.error e, t') => (.error e, t') := by
  simp only [Change.on, ExceptT.run_bind, StateT.run_bind]
  rcases StateT.run (ExceptT.run c) t with ⟨_ | _, _⟩ <;> rfl

theorem on_tryCatch (c : Change α) (f : IoError → Change α) :
    Change.on (tryCatch c f) t = match c.on t with
    | (.ok a, t') => (.ok a, t')
    | (.error e, t') => (f e).on t' := by
  simp only [Change.on, ExceptT.run_tryCatch, StateT.run_bind]
  rcases StateT.run (ExceptT.run c) t with ⟨_ | _, _⟩ <;> rfl

/-! ## Growth -/

structure Grown (t t' : FileTree) : Prop where
  current : t'.current = t.current
  kept : ∀ p n, t.node? p = some n → t'.node? p = some n
  fresh : ∀ p, t.node? p = none →
    t'.node? p = none ∨ t'.node? p = some (.directory directoryMode)
  rooted : t.Rooted → t'.Rooted

theorem Grown.refl (t : FileTree) : Grown t t :=
  ⟨rfl, fun _ _ there => there, fun _ absent => .inl absent, id⟩

theorem Grown.trans (first : Grown t t') (second : Grown t' t'') : Grown t t'' where
  current := second.current.trans first.current
  kept p n there := second.kept p n (first.kept p n there)
  fresh p absent := by
    rcases first.fresh p absent with absent' | made
    · exact second.fresh p absent'
    · exact .inr (second.kept p _ made)
  rooted rooted := second.rooted (first.rooted rooted)

theorem Grown.hasDirectory (grown : Grown t t') (directory : t.HasDirectory p) : t'.HasDirectory p := by
  obtain ⟨mode, there⟩ := directory
  exact ⟨mode, grown.kept p _ there⟩

theorem grown_put {name : String} (directory : t.HasDirectory p)
    (absent : t.node? (p ++ [name]) = none) :
    Grown t (t.put (p ++ [name]) (.directory directoryMode)) := by
  have kept (q : Place) (n : Node) (there : t.node? q = some n) :
      (t.put (p ++ [name]) (.directory directoryMode)).node? q = some n := by
    rw [node?_put_of_ne, there]
    rintro rfl
    rw [absent] at there
    cases there
  refine ⟨rfl, kept, fun q missing => ?_, fun rooted => rooted.put fun q name' same => ?_⟩
  · by_cases same : p ++ [name] = q
    · subst same
      exact .inr node?_put_self
    · exact .inl ((node?_put_of_ne same).trans missing)
  · obtain ⟨rfl, -⟩ := List.append_inj' same rfl
    exact directory

/-! ## Making -/

inductive Made (t : FileTree) (path : String) : Except IoError Unit × FileTree → Prop where
  | failed {e : IoError} {t' : FileTree} : Grown t t' → Made t path (.error e, t')
  | done {t' : FileTree} : Grown t t' → t'.isDirectory path = true → Made t path (.ok (), t')

theorem Made.grown {result : Except IoError Unit × FileTree} (made : Made t path result) :
    Grown t result.2 := by
  cases made with
  | failed grown | done grown => exact grown

theorem Made.after {result : Except IoError Unit × FileTree} (grown : Grown t t')
    (made : Made t' path result) : Made t path result := by
  cases made with
  | failed further => exact .failed (grown.trans further)
  | done further there => exact .done (grown.trans further) there

theorem leads_of_blank {names : List String} (directory : t.HasDirectory p)
    (blank : ∀ name ∈ names, name.isEmpty = true) : Leads t p names p := by
  induction names with
  | nil => exact .here
  | cons name names ih =>
      obtain ⟨first, rest⟩ := List.forall_mem_cons.1 blank
      exact .go directory (.stay (by rw [isIdle, first, Bool.true_or])) (ih rest)

theorem names_eq_of_dropWhile {outer : List String} {name : String}
    (all : (names path).reverse.dropWhile (·.isEmpty) = name :: outer) :
    ∃ blanks, names path = outer.reverse ++ name :: blanks ∧
      (∀ blank ∈ blanks, blank.isEmpty = true) ∧ name.isEmpty = false := by
  refine ⟨((names path).reverse.takeWhile (·.isEmpty)).reverse, ?_, fun blank member => ?_, ?_⟩
  · have whole := congrArg List.reverse
      (List.takeWhile_append_dropWhile (p := (·.isEmpty)) (l := (names path).reverse))
    rw [all, List.reverse_append, List.reverse_cons, List.reverse_reverse, List.append_assoc] at whole
    exact whole.symm
  · exact List.all_eq_true.1 List.all_takeWhile blank (List.mem_reverse.1 member)
  · have head := List.head?_dropWhile_not (·.isEmpty) (names path).reverse
    rw [all] at head
    exact head

theorem made_put {outer blanks : List String} {name : String} (filled : path.isEmpty = false)
    (leads : Leads t (t.origin path) outer.reverse p) (directory : t.HasDirectory p)
    (turn : Turn p name (p ++ [name])) (absent : t.node? (p ++ [name]) = none)
    (whole : names path = outer.reverse ++ name :: blanks)
    (blank : ∀ blank ∈ blanks, blank.isEmpty = true) :
    Made t path (.ok (), t.put (p ++ [name]) (.directory directoryMode)) := by
  have grown := grown_put directory absent
  refine .done grown (isDirectory_iff.2 ⟨p ++ [name], directoryMode, ?_⟩)
  refine find_eq_ok_iff.2 ⟨filled, ?_, node?_put_self⟩
  rw [whole]
  apply (leads.mono fun _ => grown.hasDirectory).append
  exact .go (grown.hasDirectory directory) turn (leads_of_blank ⟨_, node?_put_self⟩ blank)

theorem made_makeDirectory (t : FileTree) (path : String) :
    Made t path ((makeDirectory path).on t) := by
  have fails {e : IoError} : Made t path (.error e, t) := .failed (.refl t)
  simp only [makeDirectory, on_bind, on_get]
  split
  · exact fails
  · rename_i filled
    simp only [on_bind, on_ofExcept]
    generalize all : (names path).reverse.dropWhile (·.isEmpty) = last
    cases walked : t.walk path (last.drop 1).reverse with
    | error e => exact fails
    | ok p =>
        dsimp only
        cases entered : t.enter p (last.headD "") with
        | error e => exact fails
        | ok q =>
            dsimp only
            split
            · exact fails
            · rename_i free
              cases last with
              | nil => exact absurd rfl free
              | cons name outer =>
                  obtain ⟨blanks, whole, blank, named⟩ := names_eq_of_dropWhile all
                  simp only [List.headD_cons, Bool.or_eq_true, beq_iff_eq, not_or,
                    Option.not_isSome_iff_eq_none] at free
                  obtain ⟨⟨dot, up⟩, absent⟩ := free
                  obtain ⟨directory, turn⟩ := enter_eq_ok_iff.1 entered
                  cases turn with
                  | stay idle => simp [isIdle, named, dot] at idle
                  | up => exact absurd rfl up
                  | down idle other short =>
                      exact made_put (eq_false_of_ne_true filled) (walk_eq_ok_iff.1 walked) directory
                        (.down idle other short) absent whole blank

theorem made_makeOrKeep (t : FileTree) (path : String) : Made t path ((makeOrKeep path).on t) := by
  have made := made_makeDirectory t path
  simp only [makeOrKeep, on_tryCatch]
  generalize (makeDirectory path).on t = result at made
  cases made with
  | done grown there => exact .done grown there
  | @failed e t' grown =>
    simp only [on_bind, on_get]
    split
    · exact .failed grown
    · rename_i there
      exact .done grown (by simpa using there)

theorem made_makeAll {outer : List String} (grows : ∀ t, Grown t ((makeAll outer).on t).2)
    (filled : path.isEmpty = false) (t : FileTree) : Made t path ((makeAll (path :: outer)).on t) := by
  have made := made_makeDirectory t path
  simp only [makeAll, filled, Bool.false_eq_true, if_false, on_tryCatch]
  generalize (makeDirectory path).on t = result at made
  cases made with
  | done grown there => exact .done grown there
  | @failed e t' grown =>
    dsimp only
    split
    · simp only [on_bind]
      have further := grown.trans (grows t')
      generalize (makeAll outer).on t' = result at further
      rcases result with ⟨_ | _, t''⟩
      · exact .failed further
      · exact (made_makeOrKeep t'' path).after further
    · simp only [on_bind, on_get]
      split
      · exact .failed grown
      · rename_i there
        exact .done grown (by simpa using there)

theorem grown_makeAll (paths : List String) (t : FileTree) : Grown t ((makeAll paths).on t).2 := by
  induction paths generalizing t with
  | nil => exact .refl t
  | cons path outer ih =>
      by_cases filled : path.isEmpty = true
      · simp only [makeAll, filled, if_true]
        exact .refl t
      · exact (made_makeAll ih (eq_false_of_ne_true filled) t).grown

theorem made_makeWithParents (filled : path.isEmpty = false) (t : FileTree) :
    Made t path ((makeWithParents path).on t) :=
  made_makeAll (grown_makeAll _) filled t

theorem changeMode_on (t : FileTree) (path : String) (mode : Nat) :
    (changeMode path mode).on t = match t.find path with
      | .ok (p, n) => (.ok (), t.put p (n.withMode mode))
      | .error e => (.error e, t) := by
  simp only [changeMode, on_bind, on_get, on_ofExcept]
  rcases t.find path with _ | ⟨p, n⟩ <;> rfl

end GatewayTunnel.FileTree
