import GatewayTunnel.Paths
import GatewayTunnel.Proofs.FileTree.Growth

/-!
# The permissions of the directories

A call that does not find its directory makes it, with all that is missing on the way, and gives it to
its owner (`Secures`). That is the only place whose permissions it changes: what it made on the way keeps
those that the umask leaves, and so it does when a later call asks for it. `Fate` says what becomes of every
place.

The trees are those of `FileTree`: the umask is 022, there are no symbolic links, and nobody is denied
anything.
-/

namespace GatewayTunnel.Paths

open FileTree

variable {t t' : FileTree} {p q : Place} {n : Node} {dir : String} {P Q : Prop} {x y z : Option Node}

inductive Call where
  | config (env : Environment)
  | log (env : Environment)
  | directory (dir : String)

namespace Call

def dir? : Call → Option String
  | config env => configDir? env
  | log env => logDir? env
  | directory dir => some dir

def change : Call → Change String
  | config env => ensureConfig env
  | log env => ensureLog env
  | directory dir => do
    ensurePrivate dir
    return dir

end Call

/-! ## One call -/

inductive Outcome (t : FileTree) : Option String → Except IoError String × FileTree → Prop where
  | failed {dir? : Option String} {e : IoError} {t' : FileTree} :
      (∀ dir ∈ dir?, t.isPresent dir = false) → Grown t t' → Outcome t dir? (.error e, t')
  | there {dir : String} : t.isPresent dir = true → Outcome t (some dir) (.ok dir, t)
  | made {dir : String} {t' : FileTree} {p : Place} {mode : Nat} : t.isPresent dir = false →
      Grown t t' → t'.find dir = .ok (p, .directory mode) →
      Outcome t (some dir) (.ok dir, t'.put p (.directory privateMode))

theorem outcome_ensurePrivate (t : FileTree) (dir : String) :
    Outcome t (some dir) (Change.on (do ensurePrivate dir; return dir) t) := by
  simp only [ensurePrivate, on_bind, on_get]
  cases present : t.isPresent dir with
  | true => exact .there present
  | false =>
      have missing : ∀ other ∈ some dir, t.isPresent other = false := by
        rintro other ⟨⟩
        exact present
      simp only [Bool.not_false, if_true, on_bind]
      by_cases filled : dir.isEmpty = true
      · have unmade : (makeWithParents dir).on t = (.ok (), t) := by
          simp only [makeWithParents, makeAll, filled, if_true, on_pure]
        simp only [unmade, changeMode_on, find, filled, if_true]
        exact .failed missing (.refl t)
      · have made := made_makeWithParents (eq_false_of_ne_true filled) t
        generalize (makeWithParents dir).on t = result at made
        cases made with
        | failed grown => exact .failed missing grown
        | done grown there =>
            obtain ⟨p, mode, found⟩ := isDirectory_iff.1 there
            simp only [changeMode_on, found]
            exact .made present grown found

theorem Call.outcome (call : Call) (t : FileTree) : Outcome t call.dir? (call.change.on t) := by
  have ensure (what : String) (dir? : Option String) : Outcome t dir? ((ensure what dir?).on t) := by
    cases dir? with
    | none => exact .failed nofun (.refl t)
    | some dir => exact outcome_ensurePrivate t dir
  cases call with
  | config env => exact ensure _ _
  | log env => exact ensure _ _
  | directory dir => exact outcome_ensurePrivate t dir

theorem Call.on_of_present {call : Call} (about : call.dir? = some dir)
    (present : t.isPresent dir = true) : call.change.on t = (.ok dir, t) := by
  have outcome := call.outcome t
  rw [about] at outcome
  generalize call.change.on t = result at outcome
  cases outcome with
  | failed missing =>
      rw [missing dir rfl] at present
      cases present
  | there => rfl
  | made absent =>
      rw [absent] at present
      cases present

/-- The call makes its directory, which the place is. -/
def Call.Secures (call : Call) (t : FileTree) (p : Place) : Prop :=
  ∃ dir n, (call.change.on t).1 = .ok dir ∧ t.isPresent dir = false ∧
    (call.change.on t).2.find dir = .ok (p, n)

/-- What becomes of what is at a place, or is not. -/
inductive Fate (secured : Prop) : Option Node → Option Node → Prop where
  | absent : ¬secured → Fate secured none none
  | made : ¬secured → Fate secured none (some (.directory directoryMode))
  | kept {n : Node} : ¬secured → Fate secured (some n) (some n)
  | madePrivate : secured → Fate secured none (some (.directory privateMode))
  | changed {n : Node} : secured → Fate secured (some n) (some (n.withMode privateMode))

theorem Fate.trans (first : Fate P x y) (second : Fate Q y z) : Fate (P ∨ Q) x z := by
  cases first with
  | absent no =>
      cases second with
      | absent no' => exact .absent (not_or.2 ⟨no, no'⟩)
      | made no' => exact .made (not_or.2 ⟨no, no'⟩)
      | madePrivate yes => exact .madePrivate (.inr yes)
  | made no =>
      cases second with
      | kept no' => exact .made (not_or.2 ⟨no, no'⟩)
      | changed yes => exact .madePrivate (.inr yes)
  | kept no =>
      cases second with
      | kept no' => exact .kept (not_or.2 ⟨no, no'⟩)
      | changed yes => exact .changed (.inr yes)
  | madePrivate yes =>
      cases second with
      | kept | changed => exact .madePrivate (.inl yes)
  | changed yes =>
      cases second with
      | kept => exact .changed (.inl yes)
      | changed =>
          rw [Node.withMode_withMode]
          exact .changed (.inl yes)

theorem Fate.of_some (fate : Fate P (some n) x) : x = some n ∨ x = some (n.withMode privateMode) := by
  cases fate with
  | kept => exact .inl rfl
  | changed => exact .inr rfl

theorem fate_of_grown (grown : Grown t t') (no : ¬P) : Fate P (t.node? p) (t'.node? p) := by
  cases there : t.node? p with
  | some n =>
      rw [grown.kept p n there]
      exact .kept no
  | none =>
      rcases grown.fresh p there with absent | made
      · rw [absent]
        exact .absent no
      · rw [made]
        exact .made no

theorem find_secured {mode : Nat} (found : t.find dir = .ok (p, .directory mode)) :
    (t.put p (.directory privateMode)).find dir = .ok (p, .directory privateMode) := by
  refine find_mono ?_ (fun q directory => ?_) found node?_put_self
  · rfl
  · exact directory.put

theorem Call.fate (call : Call) (t : FileTree) (p : Place) :
    Fate (call.Secures t p) (t.node? p) ((call.change.on t).2.node? p) := by
  have outcome := call.outcome t
  unfold Call.Secures
  generalize call.dir? = dir?, call.change.on t = result at outcome
  cases outcome with
  | failed _ grown => exact fate_of_grown grown nofun
  | there present =>
      apply fate_of_grown (.refl t)
      rintro ⟨dir, n, same, absent, -⟩
      cases same
      rw [present] at absent
      cases absent
  | @made dir t' q mode absent grown found =>
      have moved := find_secured found
      obtain ⟨-, -, there⟩ := find_eq_ok_iff.1 found
      -- Of all that was made on the way, only the directory itself is given other permissions.
      by_cases same : q = p
      · subst same
        rw [node?_put_self]
        have secured : ∃ dir' n, (Except.ok dir : Except IoError String) = .ok dir' ∧
            t.isPresent dir' = false ∧ (t'.put q (.directory privateMode)).find dir' = .ok (q, n) :=
          ⟨dir, _, rfl, absent, moved⟩
        cases before : t.node? q with
        | none => exact .madePrivate secured
        | some n =>
            obtain rfl := Option.some.inj ((grown.kept q n before).symm.trans there)
            exact .changed secured
      · rw [node?_put_of_ne same]
        apply fate_of_grown grown
        rintro ⟨dir', n, whole, -, found'⟩
        cases whole
        rw [moved] at found'
        cases found'
        exact same rfl

theorem Call.current (call : Call) (t : FileTree) : (call.change.on t).2.current = t.current := by
  have outcome := call.outcome t
  generalize call.dir? = dir?, call.change.on t = result at outcome
  cases outcome with
  | failed _ grown => exact grown.current
  | there => rfl
  | made _ grown => exact grown.current

theorem Call.rooted (call : Call) (rooted : t.Rooted) : (call.change.on t).2.Rooted := by
  have outcome := call.outcome t
  generalize call.dir? = dir?, call.change.on t = result at outcome
  cases outcome with
  | failed _ grown => exact grown.rooted rooted
  | there => exact rooted
  | @made dir t' p mode absent grown found =>
      obtain ⟨-, -, there⟩ := find_eq_ok_iff.1 found
      apply (grown.rooted rooted).put
      rintro above name rfl
      exact grown.rooted rooted above name _ there

/-- A directory that was there is given to the owner only by a path that goes up. -/
theorem Call.Secures.up {call : Call} (secures : call.Secures t p) (rooted : t.Rooted)
    (there : t.node? p = some n) : ∃ dir, call.dir? = some dir ∧ ".." ∈ names dir := by
  have outcome := call.outcome t
  unfold Call.Secures at secures
  generalize call.dir? = dir?, call.change.on t = result at outcome secures
  obtain ⟨dir, n', same, absent, ends⟩ := secures
  cases outcome with
  | failed => cases same
  | there present =>
      cases same
      rw [present] at absent
      cases absent
  | @made _ t' q mode _ grown found =>
      cases same
      rw [find_secured found] at ends
      cases ends
      refine ⟨dir, rfl, by_contra fun down => ?_⟩
      obtain ⟨filled, leads, -⟩ := find_eq_ok_iff.1 found
      rw [origin, grown.current] at leads
      have back := find_eq_ok_iff.2 ⟨filled, leads.back rooted grown.kept down there, there⟩
      rw [isPresent_iff.2 ⟨_, _, back⟩] at absent
      cases absent

/-! ## Any number of calls -/

def after (t : FileTree) (calls : List Call) : FileTree :=
  calls.foldl (fun t call => (call.change.on t).2) t

def Secured (t : FileTree) (calls : List Call) (p : Place) : Prop :=
  ∃ before call later, calls = before ++ call :: later ∧ call.Secures (after t before) p

theorem after_append (t : FileTree) (calls more : List Call) :
    after t (calls ++ more) = after (after t calls) more :=
  List.foldl_append

theorem secured_cons {call : Call} {calls : List Call} : Secured t (call :: calls) p ↔
    call.Secures t p ∨ Secured (call.change.on t).2 calls p := by
  constructor
  · rintro ⟨before, other, later, whole, secures⟩
    cases before with
    | nil =>
        cases whole
        exact .inl secures
    | cons first before =>
        cases whole
        exact .inr ⟨before, other, later, rfl, secures⟩
  · rintro (secures | ⟨before, other, later, rfl, secures⟩)
    · exact ⟨[], call, calls, rfl, secures⟩
    · exact ⟨call :: before, other, later, rfl, secures⟩

theorem fate_after (t : FileTree) (calls : List Call) (p : Place) :
    Fate (Secured t calls p) (t.node? p) ((after t calls).node? p) := by
  induction calls generalizing t with
  | nil =>
      apply fate_of_grown (.refl t)
      rintro ⟨before, call, later, whole, -⟩
      simp at whole
  | cons call calls ih =>
      rw [secured_cons]
      exact (call.fate t p).trans (ih _)

theorem current_after (t : FileTree) (calls : List Call) : (after t calls).current = t.current := by
  induction calls generalizing t with
  | nil => rfl
  | cons call calls ih => exact (ih _).trans (call.current t)

theorem rooted_after (calls : List Call) (rooted : t.Rooted) : (after t calls).Rooted := by
  induction calls generalizing t with
  | nil => exact rooted
  | cons call calls ih => exact ih (call.rooted rooted)

theorem find_after (calls : List Call) (found : t.find dir = .ok (p, n)) :
    ∃ n', (after t calls).find dir = .ok (p, n') ∧ (n' = n ∨ n' = n.withMode privateMode) := by
  have kept (q : Place) (directory : t.HasDirectory q) : (after t calls).HasDirectory q := by
    obtain ⟨mode, there⟩ := directory
    have fate := fate_after t calls q
    rw [there] at fate
    rcases fate.of_some with same | changed
    · exact ⟨mode, same⟩
    · exact ⟨privateMode, changed⟩
  obtain ⟨-, -, there⟩ := find_eq_ok_iff.1 found
  have fate := fate_after t calls p
  rw [there] at fate
  have find {n' : Node} (there : (after t calls).node? p = some n') :=
    find_mono (current_after t calls) kept found there
  rcases fate.of_some with same | changed
  · exact ⟨n, find same, .inl rfl⟩
  · exact ⟨_, find changed, .inr rfl⟩

theorem Call.finds {call : Call} (worked : (call.change.on t).1 = .ok dir) :
    ∃ p n, (call.change.on t).2.find dir = .ok (p, n) ∧
      (t.isPresent dir = false → n = .directory privateMode) := by
  have outcome := call.outcome t
  generalize call.dir? = dir?, call.change.on t = result at outcome worked
  cases outcome with
  | failed => cases worked
  | there present =>
      cases worked
      obtain ⟨p, n, found⟩ := isPresent_iff.1 present
      refine ⟨p, n, found, fun absent => ?_⟩
      rw [present] at absent
      cases absent
  | made _ _ found =>
      cases worked
      exact ⟨_, _, find_secured found, fun _ => rfl⟩

/-- At the end a place has the permissions of the owner if a call has secured it, and its own otherwise, also
where calls fail half way. The directory of a call that works is there, secured unless the call found it, and
then the call does nothing. What was there at the start is secured only for a path that goes up. A new
directory that no call has secured has the permissions 755, as the umask of a tree is 022. -/
theorem permissions_exact (t : FileTree) (calls : List Call) :
    (∀ p, Fate (Secured t calls p) (t.node? p) ((after t calls).node? p)) ∧
    (∀ before call later dir, calls = before ++ call :: later →
      (call.change.on (after t before)).1 = .ok dir → ∃ p n, (after t calls).find dir = .ok (p, n) ∧
        ((after t before).isPresent dir = false → n = .directory privateMode)) ∧
    (∀ before call later dir, calls = before ++ call :: later → call.dir? = some dir →
      (after t before).isPresent dir = true →
        call.change.on (after t before) = (.ok dir, after t before)) ∧
    (t.Rooted → ∀ p n, t.node? p = some n → Secured t calls p →
      ∃ call ∈ calls, ∃ dir, call.dir? = some dir ∧ ".." ∈ names dir) := by
  refine ⟨fate_after t calls, ?_, fun _ _ _ _ _ => Call.on_of_present, ?_⟩
  · rintro before call later dir rfl worked
    obtain ⟨p, n, found, made⟩ := Call.finds worked
    obtain ⟨n', found', left⟩ := find_after later found
    rw [after_append]
    refine ⟨p, n', found', fun absent => ?_⟩
    obtain rfl := made absent
    rcases left with rfl | rfl <;> rfl
  · rintro rooted p n there ⟨before, call, later, rfl, secures⟩
    have fate := fate_after t before p
    rw [there] at fate
    obtain ⟨n', there'⟩ : ∃ n', (after t before).node? p = some n' := by
      rcases fate.of_some with same | changed
      · exact ⟨_, same⟩
      · exact ⟨_, changed⟩
    obtain ⟨dir, about, up⟩ := secures.up (rooted_after before rooted) there'
    exact ⟨call, by simp, dir, about, up⟩

def sampleAccount : Environment :=
  ⟨some "/home/user", none, none, none⟩

def sharedTree : FileTree :=
  FileTree.put ⟨[], []⟩ ["srv"] (.directory 0o750)

/-- The logs come before the configuration, and a path leaves the directory that it makes. -/
def roundabout : List Call :=
  [.log sampleAccount, .config sampleAccount, .directory "/srv/new/.."]

theorem permissions_exact_roundabout : sharedTree.Rooted ∧
    Secured sharedTree roundabout ["srv"] ∧
    (∃ call ∈ roundabout, ∃ dir, call.dir? = some dir ∧ ".." ∈ names dir) ∧
    Fate (Secured sharedTree roundabout ["srv"]) (some (.directory 0o750)) (some (.directory 0o700)) ∧
    Fate (Secured sharedTree roundabout ["home", "user", ".config", "sshtun"]) none
      (some (.directory 0o755)) ∧
    ∃ p, (after sharedTree roundabout).find "/home/user/.config/sshtun/logs" =
      .ok (p, .directory 0o700) := by
  obtain ⟨fate, found, -, up⟩ := permissions_exact sharedTree roundabout
  have rooted : sharedTree.Rooted := by
    apply (rooted_empty []).put
    intro above name whole
    rw [← List.nil_append ["srv"]] at whole
    obtain ⟨rfl, -⟩ := List.append_inj' whole rfl
    exact ⟨directoryMode, rfl⟩
  have secured : Secured sharedTree roundabout ["srv"] :=
    ⟨[.log sampleAccount, .config sampleAccount], .directory "/srv/new/..", [], rfl, "/srv/new/..",
      .directory 0o700, by decide +kernel, by decide +kernel, by decide +kernel⟩
  refine ⟨rooted, secured, up rooted ["srv"] (.directory 0o750) (by decide) secured, ?_, ?_, ?_⟩
  · have shared := fate ["srv"]
    have before : sharedTree.node? ["srv"] = some (.directory 0o750) := by decide
    have later : (after sharedTree roundabout).node? ["srv"] = some (.directory 0o700) := by
      decide +kernel
    rwa [before, later] at shared
  · have config := fate ["home", "user", ".config", "sshtun"]
    have before : sharedTree.node? ["home", "user", ".config", "sshtun"] = none := by decide
    have later : (after sharedTree roundabout).node? ["home", "user", ".config", "sshtun"] =
        some (.directory 0o755) := by decide +kernel
    rwa [before, later] at config
  · obtain ⟨p, n, there, made⟩ := found [] _ _ "/home/user/.config/sshtun/logs" rfl (by decide +kernel)
    obtain rfl := made (by decide +kernel)
    exact ⟨p, there⟩

def succeed (t : FileTree) : List Call → Bool
  | [] => true
  | call :: calls => (call.change.on t).1.isOk && succeed (call.change.on t).2 calls

/-- New directories are their owner's alone, and the others keep their permissions. -/
def OwnersAlone (t t' : FileTree) : Prop :=
  (∀ p mode, t.node? p = none → t'.node? p = some (.directory mode) → mode = privateMode) ∧
    ∀ p mode, t.node? p = some (.directory mode) → t'.node? p = some (.directory mode)

/-- The directory of the configuration is made on the way to that of the logs, and stays as it is when it is
asked for. -/
theorem config_left_open : succeed ⟨[], []⟩ [.log sampleAccount, .config sampleAccount] = true ∧
    (Call.config sampleAccount).dir? = some "/home/user/.config/sshtun" ∧
    (after ⟨[], []⟩ [.log sampleAccount, .config sampleAccount]).find "/home/user/.config/sshtun" =
      .ok (["home", "user", ".config", "sshtun"], .directory 0o755) ∧
    ¬OwnersAlone ⟨[], []⟩ (after ⟨[], []⟩ [.log sampleAccount, .config sampleAccount]) := by
  have found : (after ⟨[], []⟩ [.log sampleAccount, .config sampleAccount]).find
      "/home/user/.config/sshtun" =
        .ok (["home", "user", ".config", "sshtun"], .directory 0o755) := by decide +kernel
  refine ⟨by decide +kernel, by decide +kernel, found, fun alone => ?_⟩
  obtain ⟨-, -, there⟩ := find_eq_ok_iff.1 found
  exact absurd (alone.1 _ _ (by decide) there) (by decide)

end GatewayTunnel.Paths
