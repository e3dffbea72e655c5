import PayoutRegistry.Proofs.Refusals

/-!
The constraints of the account table hold after every row that a call writes, and not only when its work
is committed. The rows are listed apart from the checks: `Ledger.write` takes in what does not fit as well.
-/
namespace PayoutRegistry

/-- A row that is written. -/
inductive Write where
  | addUser (user : User)
  | putUser (user : User)
  | add (account : Account)
  /-- Writes a row in the place of the one with its identifier. -/
  | put (account : Account)
  | remove (id : Uuid)

namespace Ledger

/-- The ledger after a row is written, whether it fits or not. -/
def write (l : Ledger) : Write → Ledger
  | .addUser u => { l with users := l.users ++ [u] }
  | .putUser u => { l with users := l.users.map fun v => if v.id = u.id then u else v }
  | .add a => l.extended a
  | .put a => l.overwrite a
  | .remove id => l.without id

def wrote (l : Ledger) (ws : List Write) : Ledger := ws.foldl write l

end Ledger

/-- The rows that a statement writes, one after the other. -/
def Statement.writes (l : Ledger) : Statement → List Write
  | .insertUser u => [.addUser u]
  | .updateUser u => [.putUser u]
  | .insert a => [.add a]
  | .update a => [.put a]
  | .clearPrimary owner now =>
    (l.ownedBy owner).map fun a => .put { a with isPrimary := false, updatedAt := now }
  | .remove id => [.remove id]

/-- The statements that a step makes. -/
def Step.statements (l : Ledger) : Step → List Statement
  | .flush statements => statements
  | .clear owner now => [.clearPrimary owner now]
  | .claim owner id now =>
    match l.claimant? owner id with
    | some a => if a.isPrimary then [] else [.update { a with isPrimary := true, updatedAt := now }]
    | none => []
  | .remove id => [.remove id]

namespace Ledger

/-- The rows that statements write, each of them on the ledger that those before it leave. -/
def rowsOf (l : Ledger) : List Statement → List Write
  | [] => []
  | s :: statements => s.writes l ++ rowsOf (l.wrote (s.writes l)) statements

/-- The rows that steps write. -/
def rows (l : Ledger) : List Step → List Write
  | [] => []
  | s :: steps => l.rowsOf (s.statements l) ++ rows (l.wrote (l.rowsOf (s.statements l))) steps

/-- The rows lead from a ledger to another, and if the first is sound so is every one on the way. -/
structure Leads (l : Ledger) (ws : List Write) (l' : Ledger) : Prop where
  last : l.wrote ws = l'
  sound : l.Sound → ∀ done, done <+: ws → (l.wrote done).Sound

variable {l l' l₁ : Ledger} {a : Account} {w : Write} {ws ws' : List Write}

theorem wrote_append (l : Ledger) (ws ws' : List Write) :
    l.wrote (ws ++ ws') = (l.wrote ws).wrote ws' :=
  List.foldl_append

theorem leads_nil (l : Ledger) : Leads l [] l where
  last := rfl
  sound h done hd := by
    rw [List.prefix_nil.mp hd]
    exact h

theorem leads_one (h : l.Sound → (l.write w).Sound) : Leads l [w] (l.write w) where
  last := rfl
  sound hs done hd := by
    rcases List.prefix_cons_iff.mp hd with rfl | ⟨done', rfl, hd'⟩
    · exact hs
    · rw [List.prefix_nil.mp hd']
      exact h hs

theorem prefix_append_cases {α : Type} {xs ys zs : List α} (h : xs <+: ys ++ zs) :
    xs <+: ys ∨ ∃ ws, xs = ys ++ ws ∧ ws <+: zs := by
  rcases List.prefix_or_prefix_of_prefix h (List.prefix_append ys zs) with hys | ⟨ws, rfl⟩
  · exact Or.inl hys
  · exact Or.inr ⟨ws, rfl, (List.prefix_append_right_inj ys).mp h⟩

theorem Leads.append (h : Leads l ws l₁) (h' : Leads l₁ ws' l') : Leads l (ws ++ ws') l' where
  last := by rw [wrote_append, h.last, h'.last]
  sound hs done hd := by
    rcases prefix_append_cases hd with hd | ⟨done', rfl, hd'⟩
    · exact h.sound hs done hd
    · have hs₁ := h.sound hs ws (List.prefix_refl ws)
      rw [h.last] at hs₁
      rw [wrote_append, h.last]
      exact h'.sound hs₁ done' hd'

/-! ### Statements and steps that are carried out -/

theorem leads_replace (h : l.replace a = .ok l') : Leads l [.put a] l' := by
  have hl : l' = l.write (.put a) := by
    simp only [replace] at h
    split at h
    · exact (Except.ok.inj h).symm
    · cases h
  rw [hl] at h ⊢
  exact leads_one fun hs => sound_replace hs h

theorem leads_replaces {g : Account → Account} {rows : List Account}
    (h : rows.foldlM (fun l a => l.replace (g a)) l = .ok l') :
    Leads l (rows.map fun a => .put (g a)) l' := by
  induction rows generalizing l with
  | nil =>
    cases h
    exact leads_nil _
  | cons a rows ih =>
    rw [List.foldlM_cons] at h
    cases hr : l.replace (g a) with
    | error f =>
      rw [hr] at h
      cases h
    | ok l₁ =>
      rw [hr] at h
      exact (leads_replace hr).append (ih h)

/-- A statement that is taken in goes through sound ledgers, row by row. -/
theorem leads_execute {s : Statement} (h : l.execute s = .ok l') : Leads l (s.writes l) l' := by
  cases s with
  | insertUser u | updateUser u | insert a =>
    have hs : l.Sound → l'.Sound := fun hs => sound_execute hs h
    simp only [execute] at h
    split at h
    · cases h
      exact leads_one hs
    · cases h
  | update a => exact leads_replace h
  | clearPrimary owner now => exact leads_replaces h
  | remove id =>
    cases h
    exact leads_one sound_without

theorem leads_statements {statements : List Statement}
    (h : statements.foldlM execute l = .ok l') : Leads l (l.rowsOf statements) l' := by
  induction statements generalizing l with
  | nil =>
    cases h
    exact leads_nil _
  | cons s statements ih =>
    rw [List.foldlM_cons] at h
    cases hs : l.execute s with
    | error f =>
      rw [hs] at h
      cases h
    | ok l₁ =>
      rw [hs] at h
      have hl := leads_execute hs
      rw [rowsOf, hl.last]
      exact hl.append (ih h)

theorem effect_statements (l : Ledger) (s : Step) :
    s.effect l = (s.statements l).foldlM execute l := by
  cases s with
  | flush statements => rfl
  | clear owner now => exact (effect_flush_one (.clearPrimary owner now)).symm
  | remove id => rfl
  | claim owner id now =>
    simp only [Step.effect, Step.statements]
    cases l.claimant? owner id with
    | none => rfl
    | some a =>
      cases hp : a.isPrimary with
      | true => simp only [hp, ↓reduceIte]; rfl
      | false => simp only [hp, Bool.false_eq_true, ↓reduceIte]; exact (effect_flush_one _).symm

/-- Steps that are possible go through sound ledgers, row by row. -/
theorem leads_effects {steps : List Step} (h : steps.foldlM Step.effect l = .ok l') :
    Leads l (l.rows steps) l' := by
  induction steps generalizing l with
  | nil =>
    cases h
    exact leads_nil _
  | cons s steps ih =>
    rw [List.foldlM_cons] at h
    cases hs : s.effect l with
    | error f =>
      rw [hs] at h
      cases h
    | ok l₁ =>
      rw [hs] at h
      rw [effect_statements] at hs
      have hl := leads_statements hs
      rw [rows, hl.last]
      exact hl.append (ih h)

end Ledger

/-! ### Drafts, at any moment -/

namespace Work

variable {m : Mishaps} {w : Work Failure Unit} {k : Unit → Work Failure Unit} {d : Draft} {ws ws' : List Write}

/-- Work writes rows in order: all of them if it succeeds, and some first ones if it fails. -/
def Writes (w : Work Failure Unit) (d : Draft) (ws : List Write) : Prop :=
  ∃ done, done <+: ws ∧ (w.on d).2.ledger = d.ledger.wrote done ∧
    ((w.on d).1 = .ok () → done = ws)

theorem writes_pure (d : Draft) : (pure () : Work Failure Unit).Writes d [] :=
  ⟨[], List.prefix_refl [], rfl, fun _ => rfl⟩

theorem Writes.bind (hw : w.Writes d ws)
    (hk : (w.on d).1 = .ok () → (k ()).Writes (w.on d).2 ws') :
    (w >>= k).Writes d (ws ++ ws') := by
  obtain ⟨done, hd, hl, hok⟩ := hw
  rcases h : w.on d with ⟨f | ⟨⟩, d'⟩
  · rw [h] at hl
    refine ⟨done, hd.trans (List.prefix_append ws ws'), ?_, ?_⟩
    · rw [on_bind, h, hl]
    · rw [on_bind, h]
      nofun
  · rw [h] at hl hok hk
    obtain ⟨done', hd', hl', hok'⟩ := hk rfl
    obtain rfl := hok rfl
    refine ⟨done ++ done', (List.prefix_append_right_inj done).mpr hd', ?_, ?_⟩
    · rw [on_bind, h, hl', hl, Ledger.wrote_append]
    · rw [on_bind, h]
      intro hres
      rw [hok' hres]

theorem writes_call (c : Call) (d : Draft) : (call m c).Writes d [] := by
  refine ⟨[], List.prefix_refl [], ?_, fun _ => rfl⟩
  rw [on_call]
  cases m c <;> rfl

theorem Writes.after_call {c : Call} (h : w.Writes d ws) :
    (call m c >>= fun _ => w).Writes d ws := by
  refine (writes_call c d).bind ?_
  rw [on_call]
  cases m c with
  | some f => nofun
  | none => exact fun _ => h

theorem writes_execute (s : Statement) (d : Draft) :
    (execute s).Writes d (s.writes d.ledger) := by
  simp only [Writes, on_execute]
  cases h : d.ledger.execute s with
  | error f => exact ⟨[], List.nil_prefix, rfl, nofun⟩
  | ok l => exact ⟨_, List.prefix_refl _, (Ledger.leads_execute h).last.symm, fun _ => rfl⟩

theorem writes_one (s : Statement) (d : Draft) :
    (execute s).Writes d (d.ledger.rowsOf [s]) := by
  rw [Ledger.rowsOf, Ledger.rowsOf, List.append_nil]
  exact writes_execute s d

/-- Work that succeeded has written all its rows. -/
theorem Writes.ledger (h : w.Writes d ws) (hok : (w.on d).1 = .ok ()) :
    (w.on d).2.ledger = d.ledger.wrote ws := by
  obtain ⟨done, -, hl, hdone⟩ := h
  rw [hl, hdone hok]

theorem writes_statements (statements : List Statement) (d : Draft) :
    (statements.forM execute).Writes d (d.ledger.rowsOf statements) := by
  induction statements generalizing d with
  | nil => exact writes_pure d
  | cons s statements ih =>
    have hs := writes_execute s d
    refine hs.bind fun hok => ?_
    rw [← hs.ledger hok]
    exact ih _

theorem writes_flush (statements : List Statement) (d : Draft) :
    (flush m statements).Writes d (d.ledger.rowsOf statements) := by
  -- Counting the flush comes before the call, and writes no row.
  have hon : (flush m statements).on d = (call m (.flush (d.flushes + 1)) >>= fun _ =>
      statements.forM execute).on { d with flushes := d.flushes + 1 } := rfl
  simp only [Writes, hon]
  exact (writes_statements statements { d with flushes := d.flushes + 1 }).after_call

theorem writes_step (s : Step) (d : Draft) :
    (step m s).Writes d (d.ledger.rowsOf (s.statements d.ledger)) := by
  cases s with
  | flush statements => exact writes_flush statements d
  | clear owner now => exact (writes_one (.clearPrimary owner now) d).after_call
  | remove id => exact writes_one (.remove id) d
  | claim owner id now =>
    simp only [Writes, step, on_claim]
    refine Writes.after_call ?_
    simp only [Step.statements]
    cases d.ledger.claimant? owner id with
    | none => exact writes_pure d
    | some a => exact writes_flush _ d

theorem writes_steps (steps : List Step) (d : Draft) :
    (steps.forM (step m)).Writes d (d.ledger.rows steps) := by
  induction steps generalizing d with
  | nil => exact writes_pure d
  | cons s steps ih =>
    have hs := writes_step (m := m) s d
    refine hs.bind fun hok => ?_
    rw [← hs.ledger hok]
    exact ih _

end Work

/-! ### Calls -/

/-- The steps that a decision takes: none if it refuses. -/
def Decision.steps (d : Decision) : List Step :=
  match d.verdict with
  | .ok steps => steps
  | .error _ => []

/-- The steps that a call carries out, once the rows of its user are locked. -/
def Action.steps (c : Circumstances) (s : Store) : Action → List Step
  | .add _ owner form given draw =>
    match Code.deadline? (given.getD c.settings.codeMinutes) c.now with
    | some t =>
      (Operation.decideAdd s.nextId owner.id form (Code.ofDraw draw) t c.now s.ledger).steps
    | none => []
  | .verify owner id submitted => (Operation.decideVerify owner id submitted c.now s.ledger).steps
  | .promote owner id => (Operation.decidePromote owner id c.now s.ledger).steps
  | .delete owner id => (Operation.decideDelete owner id s.ledger).steps
  | .list _ => []

section Calls

variable {c : Circumstances} {s : Store} {a : Action} {m : Mishaps} {limit : Binary64}
  {judge : Ledger → Decision} {steps : List Step} {l : Ledger} {x : Answer} {f : Failure}

theorem Decision.steps_of_ok {d : Decision} (h : d.verdict = .ok steps) : d.steps = steps := by
  rw [Decision.steps, h]

theorem Decision.possible_steps {d : Decision} (l : Ledger)
    (h : ∀ steps, d.verdict = .ok steps → ∃ l', steps.foldlM Step.effect l = .ok l') :
    ∃ l', d.steps.foldlM Step.effect l = .ok l' := by
  cases hv : d.verdict with
  | error r =>
    rw [Decision.steps, hv]
    exact ⟨l, rfl⟩
  | ok steps =>
    rw [Decision.steps_of_ok hv]
    exact h steps hv

/-- The constraints let the steps of every call through. -/
theorem Action.possible_steps (a : Action) (hs : s.ledger.Sound) (hfree : s.ledger.Free s.nextId) :
    ∃ l, (a.steps c s).foldlM Step.effect s.ledger = .ok l := by
  cases a with
  | add courier owner form given draw =>
    simp only [Action.steps]
    cases Code.deadline? (given.getD c.settings.codeMinutes) c.now with
    | none => exact ⟨s.ledger, rfl⟩
    | some t => exact Decision.possible_steps _ fun _ => Operation.decideAdd_possible hs hfree
  | verify owner id submitted =>
    exact Decision.possible_steps _ fun _ => Operation.decideVerify_possible hs
  | promote owner id => exact Decision.possible_steps _ fun _ => Operation.decidePromote_possible hs
  | delete owner id => exact Decision.possible_steps _ fun _ => Operation.decideDelete_possible
  | list owner => exact ⟨s.ledger, rfl⟩

/-- Carrying out no steps leaves the store, whether or not the commit fails. -/
theorem Store.run_nil (s : Store) (m : Mishaps) : (s.run m []).2 = s := by
  have hresult : (s.carryOut m []).result = .ok () := rfl
  simp only [Store.run, Pending.commit, Pending.committed, hresult]
  cases m (.commit 1) <;> rfl

theorem Pending.store_commit (p : Pending Failure Unit) (n : Nat) (log : List LogRecord) :
    ((p.committed m n).guarded limit log).store = (p.commit m n).2 := by
  simp only [Attempt.store, Pending.session_guarded, Pending.commit]
  cases (p.committed m n).result <;> rfl

theorem Store.attempt_store (hm : m .lock = none) :
    (s.attempt m limit judge).store = (s.run m (judge s.ledger).steps).2 := by
  simp only [Store.attempt, Store.body, hm]
  cases hv : (judge s.ledger).verdict with
  | ok steps =>
    rw [Decision.steps_of_ok hv]
    exact Pending.store_commit _ 1 _
  | error r =>
    rw [Decision.steps, hv, Store.run_nil, Attempt.store, Pending.session_guarded]
    rfl

theorem Action.steps_eq (c : Circumstances) (s : Store) (a : Action) : a.steps c s =
    match a.judge? c s with
    | some judge => (judge s.ledger).steps
    | none => [] := by
  cases a with
  | add courier owner form given draw =>
    simp only [Action.steps, Action.judge?]
    cases Code.deadline? (given.getD c.settings.codeMinutes) c.now <;> rfl
  | _ => rfl

/-- A call leaves the store that carrying out its steps leaves. -/
theorem perform_store (hm : c.mishaps .lock = none) :
    (a.perform c s).store = (s.run c.mishaps (a.steps c s)).2 := by
  rw [store_perform, Action.steps_eq]
  cases a.judge? c s with
  | none => exact (s.run_nil c.mishaps).symm
  | some judge => exact Store.attempt_store hm

theorem ofAttempt_effects {α β : Type} {line : LogRecord} {value : Ledger → α} {g : α → β} {b : β}
    (h : ((Outcome.ofAttempt (s.attempt m limit judge) line value).map g).result = .ok b) :
    (judge s.ledger).steps.foldlM Step.effect s.ledger =
      .ok ((Outcome.ofAttempt (s.attempt m limit judge) line value).map g).store.ledger := by
  obtain ⟨_, h, -⟩ := map_eq_ok.mp h
  obtain ⟨steps, hv, he, -⟩ := ofAttempt_ok h
  rw [Decision.steps_of_ok hv, he, Outcome.map, ofAttempt_store]

/-- A call that succeeds has carried out all its steps. -/
theorem perform_effects (h : (a.perform c s).result = .ok x) :
    (a.steps c s).foldlM Step.effect s.ledger = .ok (a.perform c s).store.ledger := by
  cases a with
  | add courier owner form given draw =>
    obtain ⟨i, hi, -⟩ := map_eq_ok.mp h
    obtain ⟨t, ht, hok⟩ := add_ok hi
    obtain ⟨steps, hv, hw, -⟩ := Store.attempt_ok hok
    simp only [Action.steps, ht, Decision.steps_of_ok hv, Action.perform, Outcome.map, add_store ht]
    exact effects_of_worked hw
  | verify owner id submitted => exact ofAttempt_effects h
  | promote owner id => exact ofAttempt_effects h
  | delete owner id => exact ofAttempt_effects h
  | list owner =>
    rw [Action.perform, Outcome.map, list_store]
    rfl

/-- Only a call that was given a failure ends the work of a draft early. -/
theorem Store.carryOut_failed (he : steps.foldlM Step.effect s.ledger = .ok l)
    (hf : (s.carryOut m steps).result = .error f) : ∃ call, m call = some f := by
  cases hm : (s.ledger.made 0 steps).findSome? m with
  | some f' =>
    have hc : s.ledger.carried m 0 steps = .error f' := by rw [carried_eq he, hm]
    rw [Store.carryOut_error hc] at hf
    obtain ⟨call, -, hcall⟩ := List.exists_of_findSome?_eq_some hm
    exact ⟨call, hcall.trans (congrArg some (Except.error.inj hf))⟩
  | none =>
    have hc : s.ledger.carried m 0 steps = .ok l := by rw [carried_eq he, hm]
    rw [(Store.carryOut_ok hc).1] at hf
    cases hf

theorem carryOut_written (s : Store) (m : Mishaps) (steps : List Step) :
    ∃ done, done <+: s.ledger.rows steps ∧
      (s.carryOut m steps).done.ledger = s.ledger.wrote done := by
  obtain ⟨done, hd, hl, -⟩ := Work.writes_steps (m := m) steps s.session.draft
  exact ⟨done, hd, hl⟩

theorem Refused.ne_transient {now : Instant} {r : Refusal} {detail : String}
    (h : Refused now l a r) : r ≠ .transient detail := by
  cases h <;> nofun

/-- A call that meets no failing database call is refused by the rules or finds no deadline to give; it
never comes into conflict with other rows, and is never asked to try again. -/
theorem perform_unconflicted (hs : s.ledger.Sound) (hfree : s.ledger.Free s.nextId)
    (hc : c.mishaps = calm) (h : (a.perform c s).result = .error f) :
    f = .overflow ∨ ∃ r, Refused c.now s.ledger a r ∧ f = .refusal r := by
  by_cases hdue : ∀ courier owner form given draw, a = .add courier owner form given draw →
      ∃ t, Code.deadline? (given.getD c.settings.codeMinutes) c.now = some t
  · rcases perform_calm hs hc a fun courier owner form given draw ha =>
      ⟨hfree, hdue courier owner form given draw ha⟩ with ⟨x, hx⟩ | ⟨r, hr, hres⟩
    · rw [hx] at h
      cases h
    · rw [hres] at h
      exact Or.inr ⟨r, hr, (Except.error.inj h).symm⟩
  · push Not at hdue
    obtain ⟨courier, owner, form, given, draw, rfl, hnone⟩ := hdue
    rcases add_error (map_eq_error.mp h) with ⟨-, hoverflow⟩ | ⟨t, ht, -⟩
    · exact Or.inl hoverflow
    · exact absurd ht (hnone t)

/-- From any sound ledger, be it one that calls lead to or not, every row that a call writes leaves a
sound ledger. Whichever database calls fail, the draft is at some moment of this; nothing else ends it
early, so where no call fails there is no conflict and nothing to try again. -/
theorem calls_keep_constraints (c : Circumstances) (s : Store) (a : Action)
    (hs : s.ledger.Sound) (hfree : s.ledger.Free s.nextId) :
    let rows := s.ledger.rows (a.steps c s)
    let work := s.carryOut c.mishaps (a.steps c s)
    (∀ done, done <+: rows → (s.ledger.wrote done).Sound) ∧
      (∃ done, done <+: rows ∧ work.done.ledger = s.ledger.wrote done) ∧
      (∀ f, work.result = .error f → ∃ call, c.mishaps call = some f) ∧
      (c.mishaps .lock = none → (a.perform c s).store = (work.commit c.mishaps 1).2) ∧
      (∀ x, (a.perform c s).result = .ok x →
        (a.perform c s).store.ledger = s.ledger.wrote rows) ∧
      (c.mishaps = calm → ∀ f, (a.perform c s).result = .error f →
        (∀ detail, f ≠ .integrity detail) ∧ ∀ detail, f ≠ .refusal (.transient detail)) := by
  obtain ⟨l, hl⟩ := a.possible_steps (c := c) hs hfree
  have hleads := Ledger.leads_effects hl
  refine ⟨hleads.sound hs, carryOut_written s c.mishaps _, fun f => Store.carryOut_failed hl,
    perform_store, ?_, ?_⟩
  · intro x hx
    have hstore := perform_effects hx
    rw [hl] at hstore
    rw [hleads.last, Except.ok.inj hstore]
  · intro hc f hf
    rcases perform_unconflicted hs hfree hc hf with rfl | ⟨r, hr, rfl⟩
    · exact ⟨nofun, nofun⟩
    · exact ⟨nofun, fun detail he => hr.ne_transient (Failure.refusal.inj he)⟩

/-- A row of the user with serial number 1. -/
def rowOf (serial : Nat) (number : String) (isVerified : Bool) : Account :=
  { id := .ofSerial serial, owner := .ofSerial 1, number, holder := "John Doe",
    bankName := "Test Bank", bankCode := "011", isVerified, isPrimary := false, code := none,
    deadline := none, createdAt := default, updatedAt := default }

/-- A store that no calls lead to: verified rows and none of them primary, and a row that waits for a
code although it was never given one. -/
def leaderless : Store :=
  { ledger := { users := [], accounts := [rowOf 2 "0123456789" true, rowOf 3 "1234567890" true,
      rowOf 4 "2345678901" false] },
    serial := 4 }

theorem sound_leaderless : leaderless.ledger.Sound where
  apart := by decide
  verified := by decide

/-- Promoting the second row writes four: all three without the flag, and then the one with it. -/
theorem leaderless_promotion :
    let a : Action := .promote (.ofSerial 1) (.ofSerial 3)
    let rows := leaderless.ledger.rows (a.steps default leaderless)
    leaderless.ledger.Free leaderless.nextId ∧ rows.length = 4 ∧
      (∀ done, done <+: rows → (leaderless.ledger.wrote done).Sound) ∧
      ∀ f, (a.perform default leaderless).result ≠ .error f := by
  have hfree : leaderless.ledger.Free leaderless.nextId := by
    simp only [Ledger.Free]
    decide
  have h := calls_keep_constraints default leaderless (.promote (.ofSerial 1) (.ofSerial 3))
    sound_leaderless hfree
  exact ⟨hfree, by rfl, h.1, fun f hf => by cases hf⟩

end Calls

end PayoutRegistry
