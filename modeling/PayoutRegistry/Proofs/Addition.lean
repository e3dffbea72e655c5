import PayoutRegistry.Proofs.Verification

/-!
What adding an account comes to, told by the rows of the table: when it is refused, which row it writes, and
what becomes of a row that waits while its account is added again and again.
-/
namespace PayoutRegistry

open Operation

/-- The row is that of the account a form names. -/
def Account.Named (a : Account) (owner : Uuid) (form : AccountForm) : Prop :=
  a.owner = owner ∧ a.number = form.number ∧ a.bankCode = form.bankCode

/-- What an addition writes over a row that waits. -/
structure Issuance where
  holder : String
  bankName : String
  code : String
  deadline : Instant
  now : Instant

/-- What is written for a form and a draw. -/
def Issuance.of (form : AccountForm) (draw : Nat) (deadline now : Instant) : Issuance :=
  { holder := form.holder, bankName := form.bankName, code := Code.ofDraw draw, deadline, now }

/-- A row after the latest addition of its account, if there was one. -/
def Account.reissued (a : Account) : Option Issuance → Account
  | some i => { a with holder := i.holder, bankName := i.bankName, code := some i.code,
                       deadline := some i.deadline, updatedAt := i.now }
  | none => a

/-- What a visit writes if it is an addition that succeeds. -/
def Visit.issuance? (v : Visit) : Option Issuance :=
  match v.action, v.outcome.result with
  | .add _ _ form given draw, .ok _ =>
    (Code.deadline? (given.getD v.circumstances.settings.codeMinutes) v.circumstances.now).map
      fun deadline => .of form draw deadline v.circumstances.now
  | _, _ => none

/-- The event adds the account of a row. -/
def Event.Adds (a : Account) (e : Event) : Prop :=
  ∃ c courier owner form given draw,
    e = .call c (.add courier owner form given draw) ∧ a.Named owner.id form

section Rows

variable {l : Ledger} {a : Account} {owner : Uuid} {form : AccountForm}

theorem registered?_of_named (hs : l.Sound) (ha : a ∈ l.accounts) (hn : a.Named owner form) :
    l.registered? owner form.number form.bankCode = some a := by
  obtain ⟨rfl, hnumber, hbank⟩ := hn
  rw [← hnumber, ← hbank]
  exact Ledger.registered?_of_mem hs ha

/-- A row that waits goes on waiting when it is refreshed. -/
theorem refreshed_eq (waiting : a.isVerified = false) (form : AccountForm) (draw : Nat)
    (deadline now : Instant) : refreshed a form (Code.ofDraw draw) deadline now =
      a.reissued (some (.of form draw deadline now)) := by
  simp only [refreshed, Account.reissued, Issuance.of, ← waiting]

theorem Account.reissued_reissued (a : Account) (i j : Option Issuance) :
    (a.reissued i).reissued j = a.reissued (j.or i) := by
  cases i <;> cases j <;> rfl

theorem Account.id_reissued (a : Account) (i : Option Issuance) : (a.reissued i).id = a.id := by
  cases i <;> rfl

theorem Account.named_reissued (i : Option Issuance) (hn : a.Named owner form) :
    (a.reissued i).Named owner form := by
  cases i <;> exact hn

end Rows

section Calls

variable {c : Circumstances} {s : Store} {courier : Courier} {owner : Owner} {form : AccountForm}
  {given : Option Int} {draw : Nat} {a : Account} {t : Instant} {i : Issued}

theorem add_overflow (ht : Code.deadline? (given.getD c.settings.codeMinutes) c.now = none) :
    Operation.add c courier owner form given draw s = .failed s .overflow := by
  simp only [Operation.add, ht]

/-! ### Where no database call fails -/

theorem add_proved (hs : s.ledger.Sound) (hc : c.mishaps = calm)
    (ht : Code.deadline? (given.getD c.settings.codeMinutes) c.now = some t)
    (ha : a ∈ s.ledger.accounts) (hn : a.Named owner.id form) (proved : a.isVerified = true) :
    (Operation.add c courier owner form given draw s).result =
      .error (.refusal (.alreadyVerified Refusal.alreadyAddedDetail)) := by
  have found := registered?_of_named hs ha hn
  have hv : (decideAdd s.nextId owner.id form (Code.ofDraw draw) t c.now s.ledger).verdict =
      .error (.alreadyVerified Refusal.alreadyAddedDetail) := by
    simp only [decideAdd, found, proved]
    rfl
  have hres : (addAttempt c owner form draw t s).result =
      .error (.refusal (.alreadyVerified Refusal.alreadyAddedDetail)) :=
    Store.attempt_refused (by rw [hc]; rfl) hv
  rw [add_failed ht hres, Outcome.ofFailedAttempt]

/-- Steps that the decision takes, and that are possible, are all it takes to succeed. -/
theorem add_taken {steps : List Step} {l : Ledger} (hc : c.mishaps = calm)
    (ht : Code.deadline? (given.getD c.settings.codeMinutes) c.now = some t)
    (hv : (decideAdd s.nextId owner.id form (Code.ofDraw draw) t c.now s.ledger).verdict = .ok steps)
    (he : steps.foldlM Step.effect s.ledger = .ok l) :
    (Operation.add c courier owner form given draw s).result =
      .ok { id := addedId owner form s, minutes := given.getD c.settings.codeMinutes } := by
  have hres : (addAttempt c owner form draw t s).result = .ok () := by
    rw [addAttempt, hc]
    exact (Store.attempt_calm hv he).1
  rw [add_succeeded courier ht hres]

theorem add_waiting (hs : s.ledger.Sound) (hc : c.mishaps = calm)
    (ht : Code.deadline? (given.getD c.settings.codeMinutes) c.now = some t)
    (ha : a ∈ s.ledger.accounts) (hn : a.Named owner.id form) (waiting : a.isVerified = false) :
    (Operation.add c courier owner form given draw s).result =
      .ok { id := a.id, minutes := given.getD c.settings.codeMinutes } := by
  have found := registered?_of_named hs ha hn
  have hv : (decideAdd s.nextId owner.id form (Code.ofDraw draw) t c.now s.ledger).verdict =
      .ok [.flush [.update (refreshed a form (Code.ofDraw draw) t c.now)]] := by
    simp only [decideAdd, found, changes_refreshed]
    exact congrArg Decision.verdict (if_neg (by simp [waiting]))
  have hid : addedId owner form s = a.id := by
    simp only [addedId, found]
    rfl
  rw [← hid]
  exact add_taken hc ht hv (Ledger.effects_refresh hs ha waiting form _ t c.now)

theorem add_absent (hc : c.mishaps = calm)
    (ht : Code.deadline? (given.getD c.settings.codeMinutes) c.now = some t)
    (absent : s.ledger.registered? owner.id form.number form.bankCode = none)
    (free : s.ledger.Free s.nextId) :
    (Operation.add c courier owner form given draw s).result =
      .ok { id := s.nextId, minutes := given.getD c.settings.codeMinutes } := by
  have hid : addedId owner form s = s.nextId := by
    simp only [addedId, absent]
    rfl
  rw [← hid]
  exact add_taken hc ht (decideAdd_absent absent) (Ledger.effects_insert absent free)

/-! ### What success changes -/

/-- An addition that succeeds writes over the row of its account, which waits, or puts in a new one. -/
theorem add_changes (hs : s.ledger.Sound)
    (hr : (Operation.add c courier owner form given draw s).result = .ok i) :
    ∃ t, Code.deadline? (given.getD c.settings.codeMinutes) c.now = some t ∧
      i.minutes = given.getD c.settings.codeMinutes ∧
      ((∃ a ∈ s.ledger.accounts, a.Named owner.id form ∧ a.isVerified = false ∧ i.id = a.id ∧
          (Operation.add c courier owner form given draw s).store.ledger =
            s.ledger.overwrite (a.reissued (some (.of form draw t c.now)))) ∨
        s.ledger.registered? owner.id form.number form.bankCode = none ∧
          s.ledger.Free s.nextId ∧ i.id = s.nextId ∧
          (Operation.add c courier owner form given draw s).store.ledger =
            s.ledger.extended (newAccount s.nextId owner.id form (Code.ofDraw draw) t c.now)) := by
  have hacc := add_accepted hs hr
  generalize (Operation.add c courier owner form given draw s).store.ledger = l at hacc ⊢
  cases hacc with
  | @refresh _ _ _ _ _ a t found waiting due =>
    obtain ⟨hm, hn⟩ := Ledger.registered?_some found
    refine ⟨t, due, rfl, Or.inl ⟨a, hm, hn, waiting, rfl, ?_⟩⟩
    rw [refreshed_eq waiting]
  | @insert _ _ _ _ _ t absent free due => exact ⟨t, due, rfl, Or.inr ⟨absent, free, rfl, rfl⟩⟩

/-! ### One account, added again and again -/

theorem issuance?_of_ok (ht : Code.deadline? (given.getD c.settings.codeMinutes) c.now = some t)
    (hr : (Operation.add c courier owner form given draw s).result = .ok i) :
    Visit.issuance? { circumstances := c, action := .add courier owner form given draw, before := s } =
      some (.of form draw t c.now) := by
  have hx : (Action.perform c s (.add courier owner form given draw)).result = .ok (.issued i) :=
    map_eq_ok.mpr ⟨i, hr, rfl⟩
  simp only [Visit.issuance?, Visit.outcome, hx, ht, Option.map_some]

theorem issuance?_of_error {f : Failure}
    (hr : (Operation.add c courier owner form given draw s).result = .error f) :
    Visit.issuance? { circumstances := c, action := .add courier owner form given draw, before := s } =
      none := by
  have hx : (Action.perform c s (.add courier owner form given draw)).result = .error f :=
    map_eq_error.mpr hr
  simp only [Visit.issuance?, Visit.outcome, hx]

/-- Adding the account of a row writes over this row, or nothing if it fails. -/
theorem add_reissues (hs : s.ledger.Sound) (ha : a ∈ s.ledger.accounts) (hn : a.Named owner.id form) :
    (Operation.add c courier owner form given draw s).store.ledger =
      s.ledger.overwrite (a.reissued (Visit.issuance?
        { circumstances := c, action := .add courier owner form given draw, before := s })) := by
  have found := registered?_of_named hs ha hn
  cases hr : (Operation.add c courier owner form given draw s).result with
  | ok i =>
    obtain ⟨t, ht, -, ⟨b, hb, hbn, -, -, hl⟩ | ⟨absent, -⟩⟩ := add_changes hs hr
    · have hba : b = a := Option.some.inj ((registered?_of_named hs hb hbn).symm.trans found)
      rw [issuance?_of_ok ht hr, hl, hba]
    · simp [found] at absent
  | error f =>
    have hl : (Operation.add c courier owner form given draw s).store.ledger = s.ledger :=
      (undone_perform (a := .add courier owner form given draw) (map_eq_error.mpr hr)).ledger
    rw [issuance?_of_error hr, hl]
    exact (Ledger.overwrite_self hs ha).symm

/-- However often its account is added, a row is as the latest success leaves it. -/
theorem reissued_later (hs : s.ledger.Sound) (ha : a ∈ s.ledger.accounts) {events : List Event}
    (h : ∀ e ∈ events, e.Adds a) :
    (s.later events).ledger =
      s.ledger.overwrite (a.reissued ((s.visits events).findSome? Visit.issuance?)) := by
  induction events with
  | nil => exact (Ledger.overwrite_self hs ha).symm
  | cons e past ih =>
    have hpast := ih fun e he => h e (List.mem_cons_of_mem _ he)
    obtain ⟨c, courier, owner, form, given, draw, rfl, hn⟩ := h e List.mem_cons_self
    let latest := (s.visits past).findSome? Visit.issuance?
    -- What the earlier additions left of the row is found under the same name.
    have hm : a.reissued latest ∈ (s.later past).ledger.accounts := by
      rw [hpast]
      exact Ledger.mem_overwrite.mpr (Or.inl ⟨rfl, a, ha, (a.id_reissued latest).symm⟩)
    have hstep : (Operation.add c courier owner form given draw (s.later past)).store.ledger = _ :=
      add_reissues (sound_later hs past) hm (Account.named_reissued latest hn)
    change (Operation.add c courier owner form given draw (s.later past)).store.ledger = _
    rw [hstep, hpast, Ledger.overwrite_overwrite (by simp only [Account.id_reissued, latest]),
      Account.reissued_reissued]
    simp only [Store.visits, List.findSome?_cons, latest]
    cases Visit.issuance? _ <;> rfl

/-- What adding an account comes to, on any sound table. It fails without touching the store if the deadline
leaves the years. Otherwise, where no database call fails, it is refused if the row of the account is
verified. Whatever fails, success writes over this row or puts in a new one, and a failure changes nothing.
However often the account of a row is added, it stays one row, as the latest success leaves it. -/
theorem add_outcome (c : Circumstances) (s : Store) (courier : Courier) (owner : Owner)
    (form : AccountForm) (given : Option Int) (draw : Nat) (hs : s.ledger.Sound) :
    let o := Operation.add c courier owner form given draw s
    let minutes := given.getD c.settings.codeMinutes
    let due : Int := c.now.micros + minutes * microsPerMinute
    (due < 0 ∨ microsLimit ≤ due → o = .failed s .overflow) ∧
    (0 ≤ due → due < microsLimit → c.mishaps = calm →
      (∀ a ∈ s.ledger.accounts, a.Named owner.id form →
        (o.result = .error (.refusal (.alreadyVerified Refusal.alreadyAddedDetail)) ↔
          a.isVerified = true) ∧
        (o.result = .ok { id := a.id, minutes } ↔ a.isVerified = false)) ∧
      ((∀ a ∈ s.ledger.accounts, ¬a.Named owner.id form) → s.ledger.Free s.nextId →
        o.result = .ok { id := s.nextId, minutes })) ∧
    (∀ i, o.result = .ok i → i.minutes = minutes ∧
      ∃ t : Instant, (t.micros : Int) = due ∧
        ({ wall := t, offset := none } : Moment).instant? = some t ∧
        ((∃ a ∈ s.ledger.accounts, a.Named owner.id form ∧ a.isVerified = false ∧ i.id = a.id ∧
            o.store.ledger = { s.ledger with
              accounts := s.ledger.accounts.map fun b => if b = a then
                { a with holder := form.holder, bankName := form.bankName,
                         code := some (Code.ofDraw draw), deadline := some t, updatedAt := c.now }
                else b }) ∨
          (∀ a ∈ s.ledger.accounts, ¬a.Named owner.id form) ∧ s.ledger.Free s.nextId ∧
            i.id = s.nextId ∧ o.store.ledger = { s.ledger with
              accounts := s.ledger.accounts ++
                [{ id := s.nextId, owner := owner.id, number := form.number, holder := form.holder,
                   bankName := form.bankName, bankCode := form.bankCode, isVerified := false,
                   isPrimary := false, code := some (Code.ofDraw draw), deadline := some t,
                   createdAt := c.now, updatedAt := c.now }] })) ∧
    (∀ f, o.result = .error f → o.store.ledger = s.ledger) ∧
    ∀ a ∈ s.ledger.accounts, ∀ events : List Event, (∀ e ∈ events, e.Adds a) →
      (s.later events).ledger = { s.ledger with
        accounts := s.ledger.accounts.map fun b => if b = a then
          match (s.visits events).findSome? Visit.issuance? with
          | some i => { a with holder := i.holder, bankName := i.bankName, code := some i.code,
                               deadline := some i.deadline, updatedAt := i.now }
          | none => a
          else b } := by
  intro o minutes due
  have hdue : ∀ t, Code.deadline? minutes c.now = some t ↔ (t.micros : Int) = due :=
    fun t => Instant.add?_eq_some
  refine ⟨?_, ?_, ?_, ?_, ?_⟩
  · intro hout
    exact add_overflow (Instant.add?_eq_none.mpr hout)
  · intro hlow hhigh hc
    obtain ⟨t, ht⟩ : ∃ t, Code.deadline? minutes c.now = some t :=
      Instant.exists_add?_iff.mpr ⟨hlow, hhigh⟩
    refine ⟨fun a ha hn => ?_, fun hnone hfree => ?_⟩
    · cases hv : a.isVerified with
      | true =>
        have hres : o.result = _ := add_proved hs hc ht ha hn hv
        simp [hres]
      | false =>
        have hres : o.result = _ := add_waiting hs hc ht ha hn hv
        simp [hres, minutes]
    · exact add_absent hc ht (Ledger.registered?_eq_none.mpr hnone) hfree
  · intro i hr
    obtain ⟨t, ht, hi, hcases⟩ := add_changes hs hr
    refine ⟨hi, t, (hdue t).mp ht, Instant.instant?_unzoned t, ?_⟩
    rcases hcases with ⟨a, ha, hn, waiting, hid, hl⟩ | ⟨absent, free, hid, hl⟩
    · refine Or.inl ⟨a, ha, hn, waiting, hid, ?_⟩
      rw [hl]
      exact Ledger.overwrite_of_mem hs ha rfl
    · exact Or.inr ⟨Ledger.registered?_eq_none.mp absent, free, hid, hl⟩
  · intro f hf
    exact (undone_perform (a := .add courier owner form given draw) (map_eq_error.mpr hf)).ledger
  · intro a ha events h
    rw [reissued_later hs ha h,
      Ledger.overwrite_of_mem hs ha (Account.id_reissued a _)]
    rfl

/-- John Doe's account with a number, which now goes by other names. -/
def renamed (number : String) : AccountForm :=
  { number, holder := "Johnny Doe", bankName := "Other Bank", bankCode := "011" }

/-- A verified account is refused, and one that waits is given no minutes at all. A minute before the first
year there is no deadline, and the row that is added again twice is as the second time leaves it. -/
theorem leaderless_additions :
    let owner : Owner := { id := .ofSerial 1, email := "john@example.com" }
    let courier : Courier := Delivery.withheld.send (.fault .overflow)
    let adds (number : String) (given : Option Int) : Outcome Issued :=
      Operation.add default courier owner (renamed number) given 7 leaderless
    let event (draw : Nat) : Event :=
      .call default (.add courier owner (renamed "2345678901") (some 0) draw)
    leaderless.ledger.Sound ∧
      (adds "0123456789" (some 0)).result =
        .error (.refusal (.alreadyVerified Refusal.alreadyAddedDetail)) ∧
      (adds "2345678901" (some 0)).result = .ok { id := .ofSerial 4, minutes := 0 } ∧
      (adds "9876543210" (some 0)).result = .ok { id := .ofSerial 5, minutes := 0 } ∧
      adds "2345678901" (some (-1)) = .failed leaderless .overflow ∧
      (leaderless.later [event 2, event 1]).ledger.accounts.map (·.code) =
        [none, none, some "100002"] := by
  intro owner courier adds event
  have h : ∀ number given, _ := fun number given =>
    add_outcome default leaderless courier owner (renamed number) given 7 sound_leaderless
  have hrow (number : String) := (h number (some 0)).2.1 (by decide) (by decide) rfl
  have hlast : rowOf 4 "2345678901" false ∈ leaderless.ledger.accounts :=
    List.mem_cons_of_mem _ (List.mem_cons_of_mem _ List.mem_cons_self)
  have hruns := (h "2345678901" (some 0)).2.2.2.2 _ hlast [event 2, event 1] (by
    intro e he
    simp only [List.mem_cons, List.not_mem_nil, or_false] at he
    rcases he with rfl | rfl <;> exact ⟨_, _, _, _, _, _, rfl, rfl, rfl, rfl⟩)
  refine ⟨sound_leaderless, ?_, ?_, ?_, ?_, ?_⟩
  · exact ((hrow "0123456789").1 _ List.mem_cons_self ⟨rfl, rfl, rfl⟩).1.mpr rfl
  · exact ((hrow "2345678901").1 _ hlast ⟨rfl, rfl, rfl⟩).2.mpr rfl
  · refine (hrow "9876543210").2 ?_ ?_
    · simp only [Account.Named]
      decide
    · simp only [Ledger.Free]
      decide
  · exact (h "2345678901" (some (-1))).1 (Or.inl (by decide))
  · rw [hruns]
    decide +kernel

end Calls

end PayoutRegistry
