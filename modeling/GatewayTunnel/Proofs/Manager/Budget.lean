import GatewayTunnel.Proofs.Manager.Acquiring
import GatewayTunnel.Proofs.Manager.Calm

namespace GatewayTunnel.Manager

variable {g : Gateway} {s s₁ : State} {a : Action} {as bs : List Action} {es es₁ fs : List Event}
  {c : CallId} {p q : Phase} {n : Nat} {errors : List IoError} {old : Option TransportId}
  {told : List Action} {work : List Event}

/-! ## What is seen of one call -/

def Action.dialResult? (c : CallId) : Action → Option (Except IoError Unit)
  | dialEnded c' r => if c' = c then some r else none
  | _ => none

def Action.shakeResult? (c : CallId) : Action → Option (Except TunnelError Unit)
  | shakeEnded c' r => if c' = c then some r else none
  | _ => none

def Event.dial? (c : CallId) : Event → Option Nat
  | dialStarted c' n => if c' = c then some n else none
  | _ => none

def dialResults (c : CallId) (as : List Action) : List (Except IoError Unit) :=
  as.filterMap (Action.dialResult? c)

def shakeResults (c : CallId) (as : List Action) : List (Except TunnelError Unit) :=
  as.filterMap (Action.shakeResult? c)

def dialNumbers (c : CallId) (es : List Event) : List Nat :=
  es.filterMap (Event.dial? c)

def shakeCount (c : CallId) (es : List Event) : Nat :=
  (es.filter (·.isOf c)).countP Event.shakes

def Phase.reply? : Phase → Option Reply
  | leaving r | done r => some r
  | _ => none

/-! ## What an acquire was told -/

def heard (c : CallId) (as : List Action) : List Action :=
  as.filter fun a => a.isAnswer && a.caller? = some c

def worked (c : CallId) (es : List Event) : List Event :=
  (es.filter (·.isOf c)).filter Event.isWork

theorem heard_append (as bs : List Action) : heard c (as ++ bs) = heard c as ++ heard c bs :=
  List.filter_append ..

theorem worked_append (es fs : List Event) : worked c (es ++ fs) = worked c es ++ worked c fs := by
  simp [worked]

theorem heard_of_other (other : a.caller? ≠ some c) : heard c [a] = [] := by
  simp [heard, other]

theorem worked_of_other (none : fs.filter (·.isOf c) = []) : worked c fs = [] := by
  rw [worked, none, List.filter_nil]

theorem heard_of_turn (turn : Turn g c a p q fs) : heard c [a] = [a].filter Action.isAnswer := by
  cases answer : a.isAnswer with
  | false => simp [heard, answer]
  | true => simp [heard, answer, turn.caller?_of_isAnswer answer]

/-- From a moment on, an acquire goes on from what it was told and had done. -/
theorem Effort.since (reached : Reached g as s₁ es₁) (effort : Effort g c (s₁.calls c) told work)
    (since : Reaches (step g) s₁ bs s es) :
    Effort g c (s.calls c) (told ++ heard c bs) (work ++ worked c es) := by
  induction since with
  | refl => simpa [heard, worked] using effort
  | snoc before moved ih =>
      rw [heard_append, worked_append, ← List.append_assoc, ← List.append_assoc]
      rcases (Transition.of_step moved).turn (lockInv_of_reached (reached.trans before)) c with
        ⟨same, none, other⟩ | turn
      · rw [same, heard_of_other other, worked_of_other none, List.append_nil, List.append_nil]
        exact ih
      · rw [heard_of_turn turn]
        exact ih.turn turn

theorem unheard_of_absent (reached : Reached g as s es) (absent : s.calls c = .absent) :
    heard c as = [] ∧ worked c es = [] := by
  induction reached with
  | refl => exact ⟨rfl, rfl⟩
  | snoc before moved ih =>
      rcases (Transition.of_step moved).turn (lockInv_of_reached before) c with
        ⟨same, none, other⟩ | turn
      · obtain ⟨told, work⟩ := ih (same ▸ absent)
        rw [heard_append, worked_append, told, work, heard_of_other other, worked_of_other none]
        exact ⟨rfl, rfl⟩
      · exact absurd absent turn.ne_absent

theorem effort_of_reached (reached : Reached g as s es) (acquires : .arrive c .acquire ∈ as) :
    Effort g c (s.calls c) (heard c as) (worked c es) := by
  obtain ⟨front, back, rfl⟩ := List.append_of_mem acquires
  obtain ⟨s₀, es₀, s₁, fs, es₁, before, moved, since, rfl⟩ := reached.cut
  have arrived : s₀.calls c = .absent ∧ s₁ = s₀.move c .entered ∧ fs = [] := by
    cases phase : s₀.calls c <;> simp_all [step]
  obtain ⟨absent, rfl, rfl⟩ := arrived
  obtain ⟨told, work⟩ := unheard_of_absent before absent
  have entered : Effort g c ((s₀.move c .entered).calls c) [] [] := by
    rw [State.move_calls_self]
    exact ⟨rfl, rfl⟩
  have effort := entered.since (before.snoc moved) since
  have arrival : heard c (.arrive c .acquire :: back) = heard c back := rfl
  rwa [heard_append, worked_append, told, work, arrival]

/-! ## The bound on the numbers of the dials -/

def Phase.attempt? : Phase → Option Nat
  | ready p | dialing p | pausing _ p => some p.attempt
  | _ => none

theorem Alone.attempt (own : Alone g c a p q fs)
    (few : ∀ n, p.attempt? = some n → n < g.backoff.attempts) :
    (∀ n, q.attempt? = some n → n < g.backoff.attempts) ∧
      ∀ n, .dialStarted c n ∈ fs → n < g.backoff.attempts := by
  cases own with
  | retry retried =>
      obtain ⟨next, more, -⟩ := Backoff.Progress.fail_ok retried
      simpa [Phase.attempt?, next] using more
  | _ => simp_all [Phase.attempt?]

theorem Turn.attempt (turn : Turn g c a p q fs)
    (few : ∀ n, p.attempt? = some n → n < g.backoff.attempts) :
    (∀ n, q.attempt? = some n → n < g.backoff.attempts) ∧
      ∀ n, .dialStarted c n ∈ fs → n < g.backoff.attempts := by
  cases turn with
  | alone own => exact own.attempt few
  | leave own => cases own <;> simp [Phase.attempt?]
  | vacate old => cases old <;> simp [Phase.attempt?, Backoff.Progress.start, attempts_pos]
  | take old => cases old <;> simp [Phase.attempt?]
  | _ => simp [Phase.attempt?]

theorem Life.attempt (life : Life g c p es) :
    (∀ n, p.attempt? = some n → n < g.backoff.attempts) ∧
      ∀ n, .dialStarted c n ∈ es → n < g.backoff.attempts := by
  induction life with
  | absent => exact ⟨nofun, nofun⟩
  | turn _ turn ih =>
      obtain ⟨few, earlier⟩ := ih
      obtain ⟨few', now⟩ := turn.attempt few
      refine ⟨few', fun n shown => ?_⟩
      rcases List.mem_append.1 shown with old | new
      · exact earlier n old
      · exact now n new

/-! ## The tally -/

@[simp] theorem dialResults_refusals : dialResults c (refusals c errors) = errors.map .error := by
  simp [dialResults, refusals, List.filterMap_map, Function.comp_def, Action.dialResult?]

@[simp] theorem shakeResults_refusals : shakeResults c (refusals c errors) = [] := by
  simp [shakeResults, refusals, Action.shakeResult?]

@[simp] theorem dialNumbers_dialled : dialNumbers c (dialled c old n) = List.range n := by
  cases old <;>
    simp [dialNumbers, dialled, Event.dial?, List.filterMap_cons, List.filterMap_map, Function.comp_def]

@[simp] theorem countP_shakes_dialled : (dialled c old n).countP Event.shakes = 0 := by
  cases old <;> simp [dialled, Event.shakes]

theorem dialResults_append (as bs : List Action) :
    dialResults c (as ++ bs) = dialResults c as ++ dialResults c bs :=
  List.filterMap_append

theorem shakeResults_append (as bs : List Action) :
    shakeResults c (as ++ bs) = shakeResults c as ++ shakeResults c bs :=
  List.filterMap_append

theorem dialNumbers_append (es fs : List Event) :
    dialNumbers c (es ++ fs) = dialNumbers c es ++ dialNumbers c fs :=
  List.filterMap_append

@[simp] theorem dialResults_connected :
    dialResults c (connected c errors) = errors.map .error ++ [.ok ()] := by
  rw [connected, dialResults_append, dialResults_refusals]
  simp [dialResults, Action.dialResult?]

@[simp] theorem shakeResults_connected : shakeResults c (connected c errors) = [] := by
  rw [connected, shakeResults_append, shakeResults_refusals]
  rfl

theorem filterMap_filter_of {α β : Type} {f : α → Option β} {x : α → Bool}
    (kept : ∀ a, f a ≠ none → x a = true) (l : List α) : (l.filter x).filterMap f = l.filterMap f := by
  rw [List.filterMap_filter]
  refine List.filterMap_congr fun a _ => ?_
  split
  · rfl
  · rename_i dropped
    by_contra found
    exact dropped (kept a (Ne.symm found))

theorem dialResults_heard (as : List Action) : dialResults c (heard c as) = dialResults c as := by
  refine filterMap_filter_of (fun a found => ?_) as
  cases a <;> simp_all [Action.dialResult?, Action.isAnswer, Action.caller?]

theorem shakeResults_heard (as : List Action) : shakeResults c (heard c as) = shakeResults c as := by
  refine filterMap_filter_of (fun a found => ?_) as
  cases a <;> simp_all [Action.shakeResult?, Action.isAnswer, Action.caller?]

theorem dialNumbers_worked (es : List Event) : dialNumbers c (worked c es) = dialNumbers c es := by
  rw [worked, List.filter_filter]
  refine filterMap_filter_of (fun e found => ?_) es
  cases e <;> simp_all [Event.dial?, Event.isWork, Event.isOf, Event.caller?]

theorem countP_worked (es : List Event) : (worked c es).countP Event.shakes = shakeCount c es := by
  rw [shakeCount, worked, List.countP_filter]
  refine List.countP_congr fun e _ => ?_
  cases e <;> simp [Event.shakes, Event.isWork]

/-- How far an acquire has come with its dials and its handshake, by what they came to, the numbers of the
dials and the number of handshakes. -/
inductive Tally (g : Gateway) (p : Phase) :
    List (Except IoError Unit) → List (Except TunnelError Unit) → List Nat → Nat → Prop where
  | dialing (errors : List IoError) (n : Nat) (few : errors.length < g.backoff.attempts)
      (below : n ≤ g.backoff.attempts)
      (undecided : p.reply? = none ∨ errors = [] ∧ ∃ t, p.reply? = some (.acquired t)) :
      Tally g p (errors.map .error) [] (List.range n) 0
  | exhausted (errors : List IoError) (all : errors.length = g.backoff.attempts)
      (decided : p.reply? = some (.failed (unreachable g errors))) :
      Tally g p (errors.map .error) [] (List.range errors.length) 0
  | through (errors : List IoError) (shakes : List (Except TunnelError Unit)) (n : Nat)
      (few : errors.length < g.backoff.attempts) (once : n ≤ 1) (well : ∀ e, .error e ∉ shakes)
      (undecided : p.reply? = none ∨ ∃ t, p.reply? = some (.acquired t)) :
      Tally g p (errors.map .error ++ [.ok ()]) shakes (List.range (errors.length + 1)) n
  | refused (errors : List IoError) (e : TunnelError) (few : errors.length < g.backoff.attempts)
      (decided : p.reply? = some (.failed e)) :
      Tally g p (errors.map .error ++ [.ok ()]) [.error e] (List.range (errors.length + 1)) 1

theorem Tally.of_connected (answers : List Action) (rest : List Event)
    (few : ∀ n ∈ dialNumbers c work, n < g.backoff.attempts)
    (heard : told = connected c errors ++ answers)
    (done : work = dialled c old (errors.length + 1) ++ rest) (others : dialResults c answers = [])
    (undialled : dialNumbers c rest = [])
    (tally : errors.length < g.backoff.attempts → Tally g p (errors.map .error ++ [.ok ()])
      (shakeResults c answers) (List.range (errors.length + 1)) (rest.countP Event.shakes)) :
    Tally g p (dialResults c told) (shakeResults c told) (dialNumbers c work)
      (work.countP Event.shakes) := by
  subst heard done
  rw [dialNumbers_append, dialNumbers_dialled, undialled, List.append_nil] at few ⊢
  rw [dialResults_append, dialResults_connected, others, List.append_nil, shakeResults_append,
    shakeResults_connected, List.nil_append, List.countP_append, countP_shakes_dialled, Nat.zero_add]
  exact tally (few _ (by simp))

theorem Tally.of_established (rest : List Event)
    (few : ∀ n ∈ dialNumbers c work, n < g.backoff.attempts)
    (heard : told = connected c errors ++ [.shakeEnded c (.ok ())])
    (done : work = shaken c old errors ++ rest) (undialled : dialNumbers c rest = [])
    (unshaken : rest.countP Event.shakes = 0)
    (undecided : p.reply? = none ∨ ∃ t, p.reply? = some (.acquired t)) :
    Tally g p (dialResults c told) (shakeResults c told) (dialNumbers c work)
      (work.countP Event.shakes) := by
  have once : (Event.shakeStarted c :: rest).countP Event.shakes ≤ 1 := by
    simp [List.countP_cons, unshaken, Event.shakes]
  have well : ∀ e, .error e ∉ shakeResults c [.shakeEnded c (.ok ())] := by
    simp [shakeResults, Action.shakeResult?]
  exact .of_connected [.shakeEnded c (.ok ())] (.shakeStarted c :: rest) few heard
    (done.trans (List.append_assoc ..)) rfl undialled fun lt => .through _ _ _ lt once well undecided

theorem Tally.of_failed {e : TunnelError} (decided : p.reply? = some (.failed e))
    (few : ∀ n ∈ dialNumbers c work, n < g.backoff.attempts)
    (failed : (∃ old errors, e = unreachable g errors ∧ errors.length = g.backoff.attempts ∧
          told = refusals c errors ∧ work = dialled c old errors.length) ∨
        ∃ old errors, told = connected c errors ++ [.shakeEnded c (.error e)] ∧
          work = shaken c old errors) :
    Tally g p (dialResults c told) (shakeResults c told) (dialNumbers c work)
      (work.countP Event.shakes) := by
  rcases failed with ⟨old, errors, rfl, all, rfl, rfl⟩ | ⟨old, errors, heard, done⟩
  · simpa using Tally.exhausted errors all decided
  · refine .of_connected [.shakeEnded c (.error e)] [.shakeStarted c] few heard done rfl rfl
      fun lt => ?_
    simpa [shakeResults, Action.shakeResult?, Event.shakes] using Tally.refused errors e lt decided

theorem Effort.tally (effort : Effort g c p told work)
    (few : ∀ n ∈ dialNumbers c work, n < g.backoff.attempts) :
    Tally g p (dialResults c told) (shakeResults c told) (dialNumbers c work)
      (work.countP Event.shakes) := by
  have idle (undecided : p.reply? = none ∨ ∃ t, p.reply? = some (.acquired t))
      (nothing : told = [] ∧ work = []) : Tally g p (dialResults c told) (shakeResults c told)
        (dialNumbers c work) (work.countP Event.shakes) := by
    obtain ⟨rfl, rfl⟩ := nothing
    exact .dialing [] 0 attempts_pos (Nat.zero_le _) (undecided.imp_right fun known => ⟨rfl, known⟩)
  cases p with
  | entered => exact idle (.inl rfl) effort
  | asking goal | waiting goal | locked goal =>
      cases goal with
      | acquire => exact idle (.inl rfl) effort
      | close => exact effort.elim
  | ready | pausing =>
      obtain ⟨old, errors, rfl, more, rfl, rfl⟩ := effort
      simpa using Tally.dialing errors errors.length more more.le (.inl rfl)
  | dialing =>
      obtain ⟨old, errors, rfl, more, rfl, rfl⟩ := effort
      simpa using Tally.dialing errors (errors.length + 1) more more (.inl rfl)
  | dialed =>
      obtain ⟨old, errors, heard, done⟩ := effort
      exact .of_connected [] [] few (heard.trans (List.append_nil _).symm)
        (done.trans (List.append_nil _).symm) rfl rfl
        fun lt => .through errors [] 0 lt (Nat.zero_le _) (by simp) (.inl rfl)
  | shaking =>
      obtain ⟨old, errors, heard, done⟩ := effort
      exact .of_connected [] [.shakeStarted c] few (heard.trans (List.append_nil _).symm) done rfl rfl
        fun lt => .through errors [] 1 lt (Nat.le_refl _) (by simp) (.inl rfl)
  | publishing | watching =>
      obtain ⟨old, errors, heard, done⟩ := effort
      exact .of_established _ few heard done rfl rfl (.inl rfl)
  | leaving r | done r =>
      cases r with
      | acquired t =>
          -- The transport was there already, or the acquire has made it.
          rcases effort with nothing | ⟨old, errors, heard, done⟩
          · exact idle (.inr ⟨t, rfl⟩) nothing
          · exact .of_established _ few heard done rfl rfl (.inr ⟨t, rfl⟩)
      | failed e => exact .of_failed rfl few effort
      | closed => exact effort.elim
  | absent | taken | toClose | closing => exact effort.elim

theorem tally_of_reached (reached : Reached g as s es) (acquires : .arrive c .acquire ∈ as) :
    Tally g (s.calls c) (dialResults c as) (shakeResults c as) (dialNumbers c es) (shakeCount c es) := by
  -- `Effort` forgets the bound on the failed dials once the call is connected; the numbers of the dials
  -- give it back.
  have few : ∀ n ∈ dialNumbers c (worked c es), n < g.backoff.attempts := by
    intro n mem
    rw [dialNumbers_worked] at mem
    obtain ⟨e, shown, number⟩ := List.mem_filterMap.1 mem
    have dial : e = .dialStarted c n := by
      cases e <;> simp_all [Event.dial?]
    subst dial
    exact (life_of_reached reached c).attempt.2 n (mem_filter_isOf shown rfl)
  have tally := (effort_of_reached reached acquires).tally few
  rwa [dialResults_heard, shakeResults_heard, dialNumbers_worked, countP_worked] at tally

/-! ## The budget -/

def outcomes (results : List (Except IoError Unit)) (k : Nat) : Except IoError Unit :=
  results[k]?.getD (.ok ())

/-- The acquire keeps to the attempts of one backoff on the results of its own dials, shakes hands once at
most, and fails with what failed. -/
structure Budget (g : Gateway) (c : CallId) (as : List Action) (s : State) (es : List Event) : Prop where
  dials : ∃ n ≤ max 1 g.backoff.maxAttempts, dialNumbers c es = List.range n
  shakes : shakeCount c es ≤ 1
  connected : shakeCount c es ≠ 0 → .ok () ∈ dialResults c as
  returned : ∀ r, .returned c r ∈ es → (s.calls c).reply? = some r
  /-- The reply is known when the attempts are spent. -/
  spent : ∀ spent, (g.backoff.run IoError.message (outcomes (dialResults c as))).result = .error spent →
    (s.calls c).reply? = some (.failed (.connect g.endpoint.render spent))
  /-- The reply is known when the handshake has failed. -/
  refused : ∀ e, .error e ∈ shakeResults c as → (s.calls c).reply? = some (.failed e)
  /-- An acquire that has dialled says so if and only if all its dials failed. -/
  connect : ∀ r, (s.calls c).reply? = some r → dialResults c as ≠ [] →
    ((∀ d ∈ dialResults c as, d ≠ .ok ()) ↔ ∃ spent,
      (g.backoff.run IoError.message (outcomes (dialResults c as))).result = .error spent ∧
      r = .failed (.connect g.endpoint.render spent))
  /-- Nothing else fails. -/
  failed : ∀ e, (s.calls c).reply? = some (.failed e) →
    (dialResults c as ≠ [] ∧ ∀ d ∈ dialResults c as, d ≠ .ok ()) ∨ .error e ∈ shakeResults c as

theorem outcomes_failed (errors : List IoError) (rest : List (Except IoError Unit)) :
    Backoff.Failed (outcomes (errors.map .error ++ rest)) errors := by
  intro k e here
  obtain ⟨lt, rfl⟩ := List.getElem?_eq_some_iff.1 here
  simp [outcomes, List.getElem?_append_left, lt]

theorem result_of_few {rest : List (Except IoError Unit)} (few : errors.length < g.backoff.attempts)
    (works : rest = [] ∨ rest = [.ok ()]) :
    (g.backoff.run IoError.message (outcomes (errors.map .error ++ rest))).result = .ok () := by
  have success : outcomes (errors.map .error ++ rest) errors.length = .ok () := by
    rcases works with rfl | rfl <;> simp [outcomes]
  rw [Backoff.run_of_success (outcomes_failed errors rest) few success]

theorem result_of_all (all : errors.length = g.backoff.attempts) :
    (g.backoff.run IoError.message (outcomes (errors.map .error))).result =
      .error ⟨g.backoff.attempts, Backoff.kept IoError.message errors⟩ := by
  have failed : Backoff.Failed (outcomes (errors.map .error)) errors := by
    simpa using outcomes_failed errors []
  rw [Backoff.run_of_spent failed all]

namespace Tally

variable {results : List (Except IoError Unit)} {answers : List (Except TunnelError Unit)}
  {numbers : List Nat}

theorem numbered (tally : Tally g p results answers numbers n) :
    ∃ n ≤ max 1 g.backoff.maxAttempts, numbers = List.range n := by
  cases tally with
  | dialing _ n _ below => exact ⟨n, below, rfl⟩
  | exhausted errors all => exact ⟨errors.length, all.le, rfl⟩
  | through errors _ _ few | refused errors _ few => exact ⟨errors.length + 1, few, rfl⟩

theorem once (tally : Tally g p results answers numbers n) : n ≤ 1 := by
  cases tally with
  | dialing | exhausted => exact Nat.zero_le 1
  | through _ _ _ _ once => exact once
  | refused => exact Nat.le_refl 1

theorem connected (tally : Tally g p results answers numbers n) (shakes : n ≠ 0) :
    .ok () ∈ results := by
  cases tally with
  | dialing | exhausted => exact absurd rfl shakes
  | through | refused => simp

theorem result (tally : Tally g p results answers numbers n) :
    ((g.backoff.run IoError.message (outcomes results)).result = .ok () ∧
        (.ok () ∈ results ∨ results = [] ∨ p.reply? = none)) ∨
      ∃ errors, results = errors.map .error ∧ errors.length = g.backoff.attempts ∧
        p.reply? = some (.failed (unreachable g errors)) := by
  cases tally with
  | dialing errors _ few _ undecided =>
      refine .inl ⟨by simpa using result_of_few few (.inl rfl), .inr ?_⟩
      rcases undecided with unknown | ⟨rfl, -⟩
      · exact .inr unknown
      · exact .inl rfl
  | exhausted errors all decided => exact .inr ⟨errors, rfl, all, decided⟩
  | through _ _ _ few | refused _ _ few => exact .inl ⟨result_of_few few (.inr rfl), .inl (by simp)⟩

theorem spent (tally : Tally g p results answers numbers n) {spent : RetryError IoError}
    (failed : (g.backoff.run IoError.message (outcomes results)).result = .error spent) :
    p.reply? = some (.failed (.connect g.endpoint.render spent)) := by
  rcases tally.result with ⟨works, -⟩ | ⟨errors, rfl, all, decided⟩
  · rw [works] at failed
    cases failed
  · rw [result_of_all all] at failed
    cases failed
    exact decided

theorem connect (tally : Tally g p results answers numbers n) {r : Reply} (known : p.reply? = some r)
    (dialled : results ≠ []) : (∀ d ∈ results, d ≠ .ok ()) ↔ ∃ spent,
      (g.backoff.run IoError.message (outcomes results)).result = .error spent ∧
      r = .failed (.connect g.endpoint.render spent) := by
  rcases tally.result with ⟨works, connected | none | unknown⟩ | ⟨errors, rfl, all, decided⟩
  · refine iff_of_false (fun never => never _ connected rfl) ?_
    rintro ⟨spent, failed, -⟩
    rw [works] at failed
    cases failed
  · exact absurd none dialled
  · rw [unknown] at known
    cases known
  · exact iff_of_true (by simp) ⟨_, result_of_all all, Option.some.inj (known.symm.trans decided)⟩

theorem answered (tally : Tally g p results answers numbers n) {e : TunnelError}
    (refused : .error e ∈ answers) : p.reply? = some (.failed e) := by
  cases tally with
  | dialing | exhausted => cases refused
  | through _ _ _ _ _ well => exact absurd refused (well e)
  | refused _ e' _ decided =>
      obtain rfl : e = e' := by simpa using refused
      exact decided

theorem failed (tally : Tally g p results answers numbers n) {e : TunnelError}
    (failed : p.reply? = some (.failed e)) :
    (results ≠ [] ∧ ∀ d ∈ results, d ≠ .ok ()) ∨ .error e ∈ answers := by
  have never {t : TransportId} (acquired : p.reply? = some (.acquired t)) : False := by
    rw [acquired] at failed
    cases failed
  cases tally with
  | dialing _ _ _ _ undecided =>
      rcases undecided with unknown | ⟨-, t, acquired⟩
      · rw [unknown] at failed
        cases failed
      · exact (never acquired).elim
  | exhausted errors all =>
      have some : errors ≠ [] := by
        rintro rfl
        exact absurd all (Nat.ne_of_lt attempts_pos)
      exact .inl ⟨by simpa using some, by simp⟩
  | through _ _ _ _ _ _ undecided =>
      rcases undecided with unknown | ⟨t, acquired⟩
      · rw [unknown] at failed
        cases failed
      · exact (never acquired).elim
  | refused _ e' _ decided =>
      obtain rfl : e = e' := by simpa using failed.symm.trans decided
      exact .inr (List.mem_singleton_self _)

end Tally

theorem budget_of_reached (reached : Reached g as s es) (acquires : .arrive c .acquire ∈ as) :
    Budget g c as s es :=
  have tally := tally_of_reached reached acquires
  { dials := tally.numbered
    shakes := tally.once
    connected := tally.connected
    returned := fun _ shown => by rw [(returned_iff_of_reached reached).1 shown]; rfl
    spent := fun _ => tally.spent
    refused := fun _ => tally.answered
    connect := fun _ => tally.connect
    failed := fun _ => tally.failed }

end GatewayTunnel.Manager
