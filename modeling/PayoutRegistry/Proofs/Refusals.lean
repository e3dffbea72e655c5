import PayoutRegistry.Proofs.Rollback

/-!
Calls that are refused. Every failure of a call is a refusal by the rules, which `Refused` lists, a
request of the guard to try again, or a failure that a call to the database was given.
-/
namespace PayoutRegistry

/-- The account that a call is about, unless it adds or lists. -/
def Action.account? : Action → Option Uuid
  | .verify _ id _ | .promote _ id | .delete _ id => some id
  | _ => none

/-- The ways in which the rules refuse a call. -/
inductive Refused (now : Instant) (l : Ledger) : Action → Refusal → Prop
  | unknown {a : Action} {id : Uuid} (named : a.account? = some id)
      (absent : l.owned? a.owner id = none) : Refused now l a (.accountNotFound id)
  | readded {courier : Courier} {owner : Owner} {form : AccountForm} {given : Option Int}
      {draw : Nat} {a : Account}
      (found : l.registered? owner.id form.number form.bankCode = some a)
      (proved : a.isVerified = true) : Refused now l (.add courier owner form given draw)
        (.alreadyVerified Refusal.alreadyAddedDetail)
  | reverified {owner id : Uuid} {submitted : String} {a : Account}
      (found : l.owned? owner id = some a) (proved : a.isVerified = true) :
      Refused now l (.verify owner id submitted) (.alreadyVerified Refusal.alreadyVerifiedDetail)
  | uncoded {owner id : Uuid} {submitted : String} {a : Account}
      (found : l.owned? owner id = some a) (waiting : a.isVerified = false)
      (unwritten : a.code = none ∨ a.code = some "") :
      Refused now l (.verify owner id submitted) .noCodeIssued
  | mismatch {owner id : Uuid} {submitted code : String} {a : Account}
      (found : l.owned? owner id = some a) (waiting : a.isVerified = false)
      (stored : a.code = some code) (written : code ≠ "") (differs : submitted ≠ code) :
      Refused now l (.verify owner id submitted) .codeMismatch
  | expired {owner id : Uuid} {submitted : String} {a : Account}
      (found : l.owned? owner id = some a) (waiting : a.isVerified = false)
      (stored : a.code = some submitted) (written : submitted ≠ "")
      (past : Code.isPast a.deadline now = true) : Refused now l (.verify owner id submitted)
        (.codeExpired (a.deadline.map fun t => Code.minutesIn (now.since t)))
  | unproved {owner id : Uuid} {a : Account} (found : l.owned? owner id = some a)
      (waiting : a.isVerified = false) : Refused now l (.promote owner id) .notVerified
  | leading {owner id : Uuid} {a : Account} (found : l.owned? owner id = some a)
      (primary : a.isPrimary = true) : Refused now l (.delete owner id) .primaryUndeletable

/-- An account is unknown to a call that names it exactly if its user has no such row. -/
theorem refused_absent_iff {now : Instant} {l : Ledger} {a : Action} {id : Uuid}
    (named : a.account? = some id) :
    Refused now l a (.accountNotFound id) ↔ l.owned? a.owner id = none := by
  constructor
  · rintro ⟨-, absent⟩
    exact absent
  · exact .unknown named

/-! ### Decisions to refuse -/

namespace Operation

variable {l : Ledger} {owner id : Uuid} {now t : Instant} {r : Refusal}

theorem onOwned_error {judge : Account → Decision}
    (h : (onOwned owner id judge l).verdict = .error r) :
    (l.owned? owner id = none ∧ r = .accountNotFound id) ∨
      ∃ a, l.owned? owner id = some a ∧ (judge a).verdict = .error r := by
  simp only [onOwned] at h
  split at h
  · rename_i hn
    cases h
    exact Or.inl ⟨hn, rfl⟩
  · rename_i a ha
    exact Or.inr ⟨a, ha, h⟩

theorem decideAdd_error {owner : Owner} {form : AccountForm} {draw : Nat}
    (h : (decideAdd id owner.id form (Code.ofDraw draw) t now l).verdict = .error r)
    (courier : Courier) (given : Option Int) :
    Refused now l (.add courier owner form given draw) r := by
  simp only [decideAdd] at h
  split at h
  · rename_i a ha
    split at h
    · rename_i hv
      cases h
      exact .readded ha hv
    · cases h
  · cases h

theorem decideVerify_error {submitted : String}
    (h : (decideVerify owner id submitted now l).verdict = .error r) :
    Refused now l (.verify owner id submitted) r := by
  rcases onOwned_error h with ⟨hn, rfl⟩ | ⟨a, ha, h⟩
  · exact .unknown rfl hn
  · split at h
    · rename_i hv
      cases h
      exact .reverified ha hv
    · rename_i hv
      have hw : a.isVerified = false := by simpa using hv
      split at h
      · rename_i hc
        cases h
        exact .uncoded ha hw (Or.inl hc)
      · rename_i hc
        cases h
        exact .uncoded ha hw (Or.inr hc)
      · rename_i code hwritten hc
        split at h
        · rename_i hne
          cases h
          exact .mismatch ha hw hc hwritten hne
        · rename_i hsame
          obtain rfl : submitted = code := not_not.mp hsame
          split at h
          · rename_i hpast
            cases h
            exact .expired ha hw hc hwritten hpast
          · cases h

theorem decidePromote_error (h : (decidePromote owner id now l).verdict = .error r) :
    Refused now l (.promote owner id) r := by
  rcases onOwned_error h with ⟨hn, rfl⟩ | ⟨a, ha, h⟩
  · exact .unknown rfl hn
  · split at h
    · cases h
    · rename_i hv
      cases h
      exact .unproved ha (by simpa using hv)

theorem decideDelete_error (h : (decideDelete owner id l).verdict = .error r) :
    Refused now l (.delete owner id) r := by
  rcases onOwned_error h with ⟨hn, rfl⟩ | ⟨a, ha, h⟩
  · exact .unknown rfl hn
  · split at h
    · rename_i hp
      cases h
      exact .leading ha hp
    · cases h

end Operation

/-! ### Decisions to take steps, which are possible -/

namespace Operation

variable {l : Ledger} {owner id : Uuid} {now t : Instant} {steps : List Step}

theorem decideAdd_possible {form : AccountForm} {code : String} (hs : l.Sound) (hfree : l.Free id)
    (h : (decideAdd id owner form code t now l).verdict = .ok steps) :
    ∃ l', steps.foldlM Step.effect l = .ok l' := by
  rcases decideAdd_ok h with ⟨a, ha, hw, rfl⟩ | ⟨hn, rfl⟩
  · exact ⟨_, Ledger.effects_refresh hs (Ledger.registered?_some ha).1 hw form code t now⟩
  · exact ⟨_, Ledger.effects_insert hn hfree⟩

theorem decideVerify_possible {submitted : String} (hs : l.Sound)
    (h : (decideVerify owner id submitted now l).verdict = .ok steps) :
    ∃ l', steps.foldlM Step.effect l = .ok l' := by
  obtain ⟨a, ha, hw, -, -, -, rfl⟩ := decideVerify_ok h
  obtain ⟨hm, rfl, rfl⟩ := Ledger.owned?_some ha
  exact ⟨_, Ledger.effects_verify hs hm hw⟩

theorem decidePromote_possible (hs : l.Sound)
    (h : (decidePromote owner id now l).verdict = .ok steps) :
    ∃ l', steps.foldlM Step.effect l = .ok l' := by
  obtain ⟨a, ha, hw, rfl⟩ := decidePromote_ok h
  obtain ⟨hm, rfl, rfl⟩ := Ledger.owned?_some ha
  exact ⟨_, Ledger.effects_promote hs hm hw⟩

theorem decideDelete_possible (h : (decideDelete owner id l).verdict = .ok steps) :
    ∃ l', steps.foldlM Step.effect l = .ok l' := by
  obtain ⟨a, -, -, rfl⟩ := decideDelete_ok h
  exact ⟨_, rfl⟩

end Operation

/-! ### Steps that fail -/

namespace Ledger

variable {l l' : Ledger} {m : Mishaps} {n : Nat} {f : Failure}

theorem replace_error {a : Account} (h : l.replace a = .error f) : f = conflict := by
  simp only [replace] at h
  split at h
  · cases h
  · cases h
    rfl

theorem foldlM_error {α : Type} {g : Ledger → α → Except Failure Ledger}
    (hg : ∀ l x f, g l x = .error f → f = conflict) {xs : List α}
    (h : xs.foldlM g l = .error f) : f = conflict := by
  induction xs generalizing l with
  | nil => cases h
  | cons x xs ih =>
    rw [List.foldlM_cons] at h
    cases hx : g l x with
    | error f' =>
      rw [hx] at h
      cases h
      exact hg l x _ hx
    | ok l' =>
      rw [hx] at h
      exact ih h

/-- The database itself fails a statement only for its constraints. -/
theorem execute_error {s : Statement} (h : l.execute s = .error f) : f = conflict := by
  cases s with
  | insertUser u | updateUser u | insert a =>
    simp only [execute] at h
    split at h
    · cases h
    · cases h
      rfl
  | update a => exact replace_error h
  | clearPrimary owner now => exact foldlM_error (fun _ _ _ => replace_error) h
  | remove id => cases h

theorem effect_error {s : Step} (h : s.effect l = .error f) : f = conflict := by
  cases s with
  | flush statements => exact foldlM_error (fun _ _ _ => execute_error) h
  | clear owner now => exact execute_error (s := .clearPrimary owner now) h
  | claim owner id now =>
    simp only [Step.effect] at h
    split at h
    · split at h
      · cases h
      · exact execute_error h
    · cases h
  | remove id => cases h

theorem outcome_error {s : Step} (h : s.outcome m n l = .error f) :
    f = conflict ∨ ∃ call, m call = some f := by
  simp only [Step.outcome] at h
  split at h
  · rename_i f' hf
    cases h
    obtain ⟨call, -, hm⟩ := List.exists_of_findSome?_eq_some hf
    exact Or.inr ⟨call, hm⟩
  · exact Or.inl (effect_error h)

theorem carried_error {steps : List Step} (h : l.carried m n steps = .error f) :
    f = conflict ∨ ∃ call, m call = some f := by
  induction steps generalizing l n with
  | nil => cases h
  | cons s steps ih =>
    simp only [carried] at h
    cases ho : s.outcome m n l with
    | error f' =>
      rw [ho] at h
      cases h
      exact outcome_error ho
    | ok l₁ =>
      rw [ho] at h
      exact ih h

theorem worked_error {steps : List Step} (h : l.worked m steps = .error f) :
    f = conflict ∨ ∃ call, m call = some f := by
  simp only [worked] at h
  split at h
  · rename_i hc
    cases h
    exact carried_error hc
  · rename_i hm
    cases h
    exact Or.inr ⟨_, hm⟩
  · cases h

end Ledger

/-! ### Attempts and calls that fail -/

section Calls

variable {c : Circumstances} {s : Store} {m : Mishaps} {limit : Binary64}
  {judge : Ledger → Decision} {f : Failure} {r : Refusal}

theorem Store.attempt_refused (hm : m .lock = none) (hv : (judge s.ledger).verdict = .error r) :
    (s.attempt m limit judge).result = .error (.refusal r) := by
  obtain ⟨hr, -⟩ := Store.attempt_eq s m limit judge
  rw [hr, Ledger.attempted, hm, hv]
  rfl

/-- An attempt that no call fails is refused for what its decision refuses, if it can take its steps. -/
theorem Store.attempt_refused_iff (hm : m = calm)
    (hsteps : ∀ steps, (judge s.ledger).verdict = .ok steps →
      ∃ l, steps.foldlM Step.effect s.ledger = .ok l) :
    (s.attempt m limit judge).result = .error (.refusal r) ↔
      (judge s.ledger).verdict = .error r := by
  subst hm
  constructor
  · intro h
    cases hv : (judge s.ledger).verdict with
    | error r' =>
      rw [Store.attempt_refused rfl hv] at h
      obtain rfl := Failure.refusal.inj (Except.error.inj h)
      rfl
    | ok steps =>
      obtain ⟨l, he⟩ := hsteps steps hv
      rw [(Store.attempt_calm hv he).1] at h
      cases h
  · exact Store.attempt_refused rfl

/-- What a failed attempt was refused for, unless it may be tried again or the database failed. -/
theorem Store.attempt_failed (h : (s.attempt m limit judge).result = .error f) :
    (∃ r, (judge s.ledger).verdict = .error r ∧ f = .refusal r) ∨
      (∃ detail, f = .refusal (.transient detail)) ∨ ∃ call, m call = some f := by
  obtain ⟨hr, -⟩ := Store.attempt_eq s m limit judge
  rw [h] at hr
  cases ha : s.ledger.attempted m judge with
  | ok l =>
    rw [ha] at hr
    cases hr
  | error f' =>
    rw [ha] at hr
    rcases guarded_cases (α := Unit) limit f' with ⟨hg, -⟩ | ⟨detail, -, hg, -⟩
    · obtain rfl : f = f' := Except.error.inj (hr.trans hg)
      simp only [Ledger.attempted] at ha
      split at ha
      · rename_i hm
        cases ha
        exact Or.inr (Or.inr ⟨_, hm⟩)
      · rename_i hv
        cases ha
        exact Or.inl ⟨_, hv, rfl⟩
      · rcases Ledger.worked_error ha with rfl | hm
        · -- The guard does not let a conflict through.
          cases hg
        · exact Or.inr (Or.inr hm)
    · exact Or.inr (Or.inl ⟨detail, Except.error.inj (hr.trans hg)⟩)

theorem ofAttempt_failed {α β : Type} {line : LogRecord} {value : Ledger → α} {g : α → β}
    (h : ((Outcome.ofAttempt (s.attempt m limit judge) line value).map g).result = .error f) :
    (s.attempt m limit judge).result = .error f := by
  have h := map_eq_error.mp h
  rw [ofAttempt_result] at h
  exact map_eq_error.mp h

/-- A refused call is refused by the rules, or it may be tried again, or the database refused it. -/
theorem perform_refused {a : Action} (h : (a.perform c s).result = .error (.refusal r)) :
    Refused c.now s.ledger a r ∨ (∃ detail, r = .transient detail) ∨
      ∃ call, c.mishaps call = some (.refusal r) := by
  have hattempt : ∀ {judge : Ledger → Decision},
      (s.attempt c.mishaps c.settings.databaseTimeout judge).result = .error (.refusal r) →
      ((judge s.ledger).verdict = .error r → Refused c.now s.ledger a r) →
      Refused c.now s.ledger a r ∨ (∃ detail, r = .transient detail) ∨
        ∃ call, c.mishaps call = some (.refusal r) := by
    intro judge hres hrefused
    rcases Store.attempt_failed hres with ⟨r', hv, hr⟩ | ⟨detail, hd⟩ | hm
    · cases hr
      exact Or.inl (hrefused hv)
    · cases hd
      exact Or.inr (Or.inl ⟨detail, rfl⟩)
    · exact Or.inr (Or.inr hm)
  cases a with
  | add courier owner form given draw =>
    rcases add_error (map_eq_error.mp h) with ⟨-, hoverflow⟩ | ⟨t, ht, hres⟩
    · cases hoverflow
    · exact hattempt hres fun hv => Operation.decideAdd_error hv courier given
  | verify owner id submitted => exact hattempt (ofAttempt_failed h) Operation.decideVerify_error
  | promote owner id => exact hattempt (ofAttempt_failed h) Operation.decidePromote_error
  | delete owner id => exact hattempt (ofAttempt_failed h) Operation.decideDelete_error
  | list owner =>
    have h := map_eq_error.mp h
    cases hm : c.mishaps .read with
    | some f =>
      rw [list_failed hm] at h
      cases h
      exact Or.inr (Or.inr ⟨_, hm⟩)
    | none =>
      rw [list_read hm] at h
      cases h

/-! ### Calls that meet no failing database call -/

/-- An attempt that no call fails is refused by the rules, or succeeds if its steps are possible. -/
theorem ofAttempt_calm_cases {α β : Type} {line : LogRecord} {value : Ledger → α} {g : α → β}
    (hsteps : ∀ steps, (judge s.ledger).verdict = .ok steps →
      ∃ l, steps.foldlM Step.effect s.ledger = .ok l) :
    (∃ x, ((Outcome.ofAttempt (s.attempt calm limit judge) line value).map g).result = .ok x) ∨
      ∃ r, (judge s.ledger).verdict = .error r ∧
        ((Outcome.ofAttempt (s.attempt calm limit judge) line value).map g).result =
          .error (.refusal r) := by
  cases hv : (judge s.ledger).verdict with
  | error r =>
    have hres : (s.attempt calm limit judge).result = .error (.refusal r) :=
      Store.attempt_refused rfl hv
    refine Or.inr ⟨r, rfl, map_eq_error.mpr ?_⟩
    rw [ofAttempt_result, hres]
    rfl
  | ok steps =>
    obtain ⟨l, he⟩ := hsteps steps hv
    exact Or.inl ⟨_, map_eq_ok.mpr ⟨_, ofAttempt_calm hv he, rfl⟩⟩

theorem add_calm_cases (courier : Courier) (owner : Owner) (form : AccountForm)
    (given : Option Int) (draw : Nat) {t : Instant} (hs : s.ledger.Sound) (hc : c.mishaps = calm)
    (hfree : s.ledger.Free s.nextId)
    (ht : Code.deadline? (given.getD c.settings.codeMinutes) c.now = some t) :
    (∃ i, (Operation.add c courier owner form given draw s).result = .ok i) ∨
      ∃ r, Refused c.now s.ledger (.add courier owner form given draw) r ∧
        (Operation.add c courier owner form given draw s).result = .error (.refusal r) := by
  cases hv : (Operation.decideAdd s.nextId owner.id form (Code.ofDraw draw) t c.now
      s.ledger).verdict with
  | error r =>
    have hres : (addAttempt c owner form draw t s).result = .error (.refusal r) :=
      Store.attempt_refused (by rw [hc]; rfl) hv
    refine Or.inr ⟨r, Operation.decideAdd_error hv courier given, ?_⟩
    rw [add_failed ht hres, Outcome.ofFailedAttempt]
  | ok steps =>
    obtain ⟨l, he⟩ := Operation.decideAdd_possible hs hfree hv
    have hres : (addAttempt c owner form draw t s).result = .ok () := by
      rw [addAttempt, hc]
      exact (Store.attempt_calm hv he).1
    exact Or.inl ⟨_, congrArg Outcome.result (add_succeeded courier ht hres)⟩

/-- A call succeeds or is refused by the rules, if no call to the database fails and, for an account that
is added, there are a number and a deadline to give. -/
theorem perform_calm (hs : s.ledger.Sound) (hc : c.mishaps = calm) (a : Action)
    (hadd : ∀ courier owner form given draw, a = .add courier owner form given draw →
      s.ledger.Free s.nextId ∧
        ∃ t, Code.deadline? (given.getD c.settings.codeMinutes) c.now = some t) :
    (∃ x, (a.perform c s).result = .ok x) ∨
      ∃ r, Refused c.now s.ledger a r ∧ (a.perform c s).result = .error (.refusal r) := by
  cases a with
  | add courier owner form given draw =>
    obtain ⟨hfree, t, ht⟩ := hadd courier owner form given draw rfl
    rcases add_calm_cases courier owner form given draw hs hc hfree ht with
      ⟨i, hi⟩ | ⟨r, hr, hres⟩
    · exact Or.inl ⟨_, map_eq_ok.mpr ⟨i, hi, rfl⟩⟩
    · exact Or.inr ⟨r, hr, map_eq_error.mpr hres⟩
  | verify owner id submitted =>
    simp only [Action.perform, Operation.verify, hc]
    rcases ofAttempt_calm_cases fun _ => Operation.decideVerify_possible hs with hok | ⟨r, hv, hres⟩
    · exact Or.inl hok
    · exact Or.inr ⟨r, Operation.decideVerify_error hv, hres⟩
  | promote owner id =>
    simp only [Action.perform, Operation.promote, hc]
    rcases ofAttempt_calm_cases fun _ => Operation.decidePromote_possible hs with hok | ⟨r, hv, hres⟩
    · exact Or.inl hok
    · exact Or.inr ⟨r, Operation.decidePromote_error hv, hres⟩
  | delete owner id =>
    simp only [Action.perform, Operation.delete, hc]
    rcases ofAttempt_calm_cases fun _ => Operation.decideDelete_possible with hok | ⟨r, hv, hres⟩
    · exact Or.inl hok
    · exact Or.inr ⟨r, Operation.decideDelete_error hv, hres⟩
  | list owner =>
    refine Or.inl ⟨.listed (s.ledger.listing owner), ?_⟩
    have hread : c.mishaps .read = none := by rw [hc]; rfl
    rw [Action.perform, list_read hread]
    rfl

end Calls

end PayoutRegistry
