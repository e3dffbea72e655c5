import PayoutRegistry.Proofs.Continuity
import PayoutRegistry.Proofs.Verification

/-!
What promoting an account comes to, told by the rows of the table. A promotion that succeeds settles the
flag of every row of its user, so only the latest one of a user is to be seen afterwards.
-/
namespace PayoutRegistry

open Operation

/-- The account that a user chose to be the primary one, and when. -/
structure Choice where
  id : Uuid
  now : Instant

/-- A row of the user after a choice. -/
def Account.chosen (a : Account) (p : Choice) : Account :=
  { a with isPrimary := decide (a.id = p.id), updatedAt := p.now }

/-- A row after the latest choice of its user, if there was one. -/
def Account.settled (a : Account) : Option Choice → Account
  | some p => a.chosen p
  | none => a

/-- The choice that a visit makes for a user. -/
def Visit.choice? (owner : Uuid) (v : Visit) : Option Choice :=
  (v.promotes? owner).map fun id => { id, now := v.circumstances.now }

/-- The event is a promotion, by whichever user and of whichever account. -/
def Event.Promotes (e : Event) : Prop := ∃ c owner id, e = .call c (.promote owner id)

theorem Account.owner_settled (a : Account) (p : Option Choice) : (a.settled p).owner = a.owner := by
  cases p <;> rfl

/-- Of two choices the later one settles the row. -/
theorem Account.settled_settled (a : Account) (p q : Option Choice) :
    (a.settled p).settled q = a.settled (q.or p) := by
  cases p <;> cases q <;> rfl

section Calls

variable {c : Circumstances} {s : Store} {owner id : Uuid} {p : Promoted} {a : Account} {r : Refusal}

/-! ### Which refusal it is -/

theorem decidePromote_error_iff {now : Instant} {l : Ledger} :
    (decidePromote owner id now l).verdict = .error r ↔ Refused now l (.promote owner id) r := by
  constructor
  · exact decidePromote_error
  · intro h
    cases h with
    | unknown named absent =>
      obtain rfl := Option.some.inj named
      simp only [Action.owner] at absent
      simp only [decidePromote, onOwned, absent]
      rfl
    | unproved found waiting =>
      simp only [decidePromote, onOwned, found, waiting]
      rfl

theorem promote_refused_iff (hs : s.ledger.Sound) (hc : c.mishaps = calm) :
    (Operation.promote c owner id s).result = .error (.refusal r) ↔
      Refused c.now s.ledger (.promote owner id) r := by
  rw [Operation.promote, ofAttempt_result, map_eq_error, ← decidePromote_error_iff]
  exact Store.attempt_refused_iff hc fun _ => decidePromote_possible hs

theorem refused_unproved_iff {now : Instant} {l : Ledger} (found : l.owned? owner id = some a) :
    Refused now l (.promote owner id) .notVerified ↔ a.isVerified = false := by
  constructor
  · intro h
    cases h with
    | unproved found' waiting =>
      obtain rfl := Option.some.inj (found.symm.trans found')
      exact waiting
  · exact .unproved found

/-! ### What success changes -/

/-- A promotion that succeeds found a verified row of the user, and settles all rows of the user. -/
theorem promote_changes (hs : s.ledger.Sound)
    (hr : (Operation.promote c owner id s).result = .ok p) :
    p = { id, isPrimary := true } ∧ (∃ a, s.ledger.owned? owner id = some a ∧ a.isVerified = true) ∧
      (Operation.promote c owner id s).store.ledger =
        s.ledger.rewritten owner fun b => b.chosen { id, now := c.now } := by
  have hacc := promote_accepted hs hr
  generalize (Operation.promote c owner id s).store.ledger = l at hacc ⊢
  cases hacc with
  | promote found proved =>
    refine ⟨rfl, ⟨_, found, proved⟩, ?_⟩
    obtain ⟨-, rfl, rfl⟩ := Ledger.owned?_some found
    rfl

theorem promote_owned_iff (hs : s.ledger.Sound) (hc : c.mishaps = calm)
    (found : s.ledger.owned? owner id = some a) :
    (Operation.promote c owner id s).result = .ok { id, isPrimary := true } ↔ a.isVerified = true := by
  constructor
  · intro hr
    obtain ⟨-, ⟨b, found', proved⟩, -⟩ := promote_changes hs hr
    obtain rfl := Option.some.inj (found.symm.trans found')
    exact proved
  · intro proved
    obtain ⟨hm, rfl, rfl⟩ := Ledger.owned?_some found
    have hv : (decidePromote a.owner a.id c.now s.ledger).verdict = .ok [.clear a.owner c.now,
        .flush [], .flush [.update { a with isPrimary := true, updatedAt := c.now }]] := by
      simp only [decidePromote, onOwned, found, changes_promoted]
      exact congrArg Decision.verdict (if_pos proved)
    rw [Operation.promote, hc, ofAttempt_calm hv (Ledger.effects_promote hs hm proved), isPrimary,
      Ledger.account?_promoted hs hm]
    rfl

/-- What is promoted can be promoted again, and that leaves nothing but its time behind. -/
theorem promote_again (hs : s.ledger.Sound)
    (hr : (Operation.promote c owner id s).result = .ok p) {c' : Circumstances}
    (hc' : c'.mishaps = calm) :
    let once := (Operation.promote c owner id s).store
    (Operation.promote c' owner id once).result = .ok { id, isPrimary := true } ∧
      (Operation.promote c' owner id once).store.ledger =
        once.ledger.rewritten owner fun b => { b with updatedAt := c'.now } := by
  intro once
  obtain ⟨-, ⟨a, found, proved⟩, hl⟩ := promote_changes hs hr
  obtain ⟨hm, rfl, rfl⟩ := Ledger.owned?_some found
  have hs' : once.ledger.Sound := sound_accepted hs (promote_accepted hs hr)
  have hm' : a.chosen { id := a.id, now := c.now } ∈ once.ledger.accounts := by
    rw [hl]
    exact Ledger.mem_rewritten.mpr (Or.inr ⟨a, hm, rfl, rfl⟩)
  have hok : (Operation.promote c' a.owner a.id once).result =
      .ok { id := a.id, isPrimary := true } :=
    (promote_owned_iff hs' hc' (Ledger.owned?_of_mem hs' hm')).mpr proved
  refine ⟨hok, ?_⟩
  obtain ⟨-, -, hl'⟩ := promote_changes hs' hok
  rw [hl', hl]
  simp only [Ledger.rewritten, List.map_map]
  congr 1
  refine List.map_congr_left ?_
  intro b _
  by_cases ho : b.owner = a.owner <;> simp [Account.chosen, ho]

/-! ### Promotions one after the other -/

theorem choice?_of_ok (hr : (Operation.promote c owner id s).result = .ok p) (o : Uuid) :
    Visit.choice? o { circumstances := c, action := .promote owner id, before := s } =
      if owner = o then some { id, now := c.now } else none := by
  have hx : (Action.perform c s (.promote owner id)).result = .ok (.promoted p) :=
    map_eq_ok.mpr ⟨p, hr, rfl⟩
  simp only [Visit.choice?, Visit.promotes?, Visit.outcome, hx, Action.promotes?]
  split <;> rfl

theorem choice?_of_error {f : Failure}
    (hr : (Operation.promote c owner id s).result = .error f) (o : Uuid) :
    Visit.choice? o { circumstances := c, action := .promote owner id, before := s } = none := by
  have hx : (Action.perform c s (.promote owner id)).result = .error f := map_eq_error.mpr hr
  simp only [Visit.choice?, Visit.promotes?, Visit.outcome, hx]
  rfl

/-- A promotion, be it successful or not, settles the rows for which it makes a choice. -/
theorem promote_settles (hs : s.ledger.Sound) :
    (Operation.promote c owner id s).store.ledger =
      { s.ledger with
        accounts := s.ledger.accounts.map fun b => b.settled
          (Visit.choice? b.owner { circumstances := c, action := .promote owner id, before := s }) } := by
  cases hr : (Operation.promote c owner id s).result with
  | ok p =>
    obtain ⟨-, -, hl⟩ := promote_changes hs hr
    rw [hl]
    simp only [Ledger.rewritten, choice?_of_ok hr]
    congr 1
    refine List.map_congr_left ?_
    intro b _
    by_cases ho : b.owner = owner
    · simp [ho, Account.settled]
    · simp [ho, Ne.symm ho, Account.settled]
  | error f =>
    have hl : (Operation.promote c owner id s).store.ledger = s.ledger :=
      (undone_perform (a := .promote owner id) (map_eq_error.mpr hr)).ledger
    simp only [hl, choice?_of_error hr, Account.settled, List.map_id']

/-- Whatever promotions there are, each row is as the latest choice of its user leaves it. -/
theorem settled_later (hs : s.ledger.Sound) {events : List Event} (h : ∀ e ∈ events, e.Promotes) :
    (s.later events).ledger =
      { s.ledger with
        accounts := s.ledger.accounts.map fun b =>
          b.settled ((s.visits events).findSome? (Visit.choice? b.owner)) } := by
  induction events with
  | nil =>
    simp only [Store.later, Store.visits, List.findSome?_nil, Account.settled, List.map_id']
  | cons e past ih =>
    have hpast := ih fun e he => h e (List.mem_cons_of_mem _ he)
    obtain ⟨c, owner, id, rfl⟩ := h e List.mem_cons_self
    have hstep : (Operation.promote c owner id (s.later past)).store.ledger = _ :=
      promote_settles (sound_later hs past)
    change (Operation.promote c owner id (s.later past)).store.ledger = _
    rw [hstep, hpast]
    simp only [List.map_map]
    congr 1
    refine List.map_congr_left ?_
    intro b _
    simp only [Function.comp_apply, Account.owner_settled, Account.settled_settled, Store.visits,
      List.findSome?_cons]
    cases Visit.choice? b.owner _ <;> rfl

/-- What promoting an account comes to, on any sound table. Where no database call fails, it is refused if
the user has no such row, or if the row is unverified. Whatever fails, success leaves the flag to the one
row of the user and a failure changes nothing. Promoting again only renews the time, and after any
promotions by any users the rows of a user are as the latest successful one of that user leaves them. -/
theorem promote_outcome (c : Circumstances) (s : Store) (owner id : Uuid) (hs : s.ledger.Sound) :
    let o := Operation.promote c owner id s
    (c.mishaps = calm →
      (o.result = .error (.refusal (.accountNotFound id)) ↔
        ∀ a ∈ s.ledger.accounts, ¬(a.owner = owner ∧ a.id = id)) ∧
      ∀ a ∈ s.ledger.accounts, a.owner = owner → a.id = id →
        (o.result = .error (.refusal .notVerified) ↔ a.isVerified = false) ∧
        (o.result = .ok { id, isPrimary := true } ↔ a.isVerified = true) ∧
        (a.isPrimary = true → o.result = .ok { id, isPrimary := true } ∧
          { a with updatedAt := c.now } ∈ o.store.ledger.accounts)) ∧
    (∀ p, o.result = .ok p → p = { id, isPrimary := true } ∧
      o.store.ledger = { s.ledger with accounts := s.ledger.accounts.map fun b =>
        if b.owner = owner then { b with isPrimary := decide (b.id = id), updatedAt := c.now }
        else b } ∧
      ∀ c' : Circumstances, c'.mishaps = calm →
        (Operation.promote c' owner id o.store).result = .ok { id, isPrimary := true } ∧
        (Operation.promote c' owner id o.store).store.ledger =
          { o.store.ledger with accounts := o.store.ledger.accounts.map fun b =>
            if b.owner = owner then { b with updatedAt := c'.now } else b }) ∧
    (∀ f, o.result = .error f → o.store.ledger = s.ledger) ∧
    ∀ events : List Event, (∀ e ∈ events, e.Promotes) →
      (s.later events).ledger = { s.ledger with
        accounts := s.ledger.accounts.map fun b => match (s.visits events).findSome? (Visit.choice? b.owner) with
        | some p => { b with isPrimary := decide (b.id = p.id), updatedAt := p.now }
        | none => b } := by
  refine ⟨fun hc => ⟨?_, ?_⟩, ?_, ?_, ?_⟩
  · have habsent : s.ledger.owned? owner id = none ↔ _ := owned?_eq_none
    rw [promote_refused_iff hs hc, ← habsent]
    exact refused_absent_iff rfl
  · rintro a ha rfl rfl
    have found := Ledger.owned?_of_mem hs ha
    have hok := promote_owned_iff hs hc found
    refine ⟨(promote_refused_iff hs hc).trans (refused_unproved_iff found), hok, fun hp => ?_⟩
    have hres := hok.mpr (hs.verified a ha hp)
    obtain ⟨-, -, hl⟩ := promote_changes hs hres
    refine ⟨hres, ?_⟩
    rw [hl]
    exact Ledger.mem_rewritten.mpr (Or.inr ⟨a, ha, rfl, by simp [Account.chosen, hp]⟩)
  · intro p hr
    obtain ⟨rfl, -, hl⟩ := promote_changes hs hr
    exact ⟨rfl, hl, fun c' hc' => promote_again hs hr hc'⟩
  · intro f hf
    exact (undone_perform (a := .promote owner id) (map_eq_error.mpr hf)).ledger
  · intro events h
    rw [settled_later hs h]
    congr 1

/-- Nobody leads, then the second row does, then the first one, and the row that waits is refused. -/
theorem leaderless_choices :
    let owner : Uuid := .ofSerial 1
    let events : List Event := [.call default (.promote owner (.ofSerial 4)),
      .call default (.promote owner (.ofSerial 2)), .call default (.promote owner (.ofSerial 3))]
    leaderless.ledger.Sound ∧
      (Operation.promote default owner (.ofSerial 3) leaderless).result =
        .ok { id := .ofSerial 3, isPrimary := true } ∧
      (Operation.promote default owner (.ofSerial 4) leaderless).result =
        .error (.refusal .notVerified) ∧
      ((leaderless.later events).ledger.accounts.filter (·.isPrimary)).map (·.id) = [.ofSerial 2] := by
  intro owner events
  have hcalm : (default : Circumstances).mishaps = calm := rfl
  obtain ⟨-, hthird⟩ :=
    (promote_outcome default leaderless owner (.ofSerial 3) sound_leaderless).1 hcalm
  obtain ⟨-, hwaits⟩ :=
    (promote_outcome default leaderless owner (.ofSerial 4) sound_leaderless).1 hcalm
  have hruns := (promote_outcome default leaderless owner (.ofSerial 3) sound_leaderless).2.2.2
  have hevents : ∀ e ∈ events, e.Promotes := by
    intro e he
    simp only [events, List.mem_cons, List.not_mem_nil, or_false] at he
    rcases he with rfl | rfl | rfl <;> exact ⟨_, _, _, rfl⟩
  obtain ⟨-, hok, -⟩ := hthird _ (List.mem_cons_of_mem _ List.mem_cons_self) rfl rfl
  obtain ⟨hno, -⟩ :=
    hwaits _ (List.mem_cons_of_mem _ (List.mem_cons_of_mem _ List.mem_cons_self)) rfl rfl
  refine ⟨sound_leaderless, hok.mpr rfl, hno.mpr rfl, ?_⟩
  rw [hruns events hevents]
  decide +kernel

end Calls

end PayoutRegistry
