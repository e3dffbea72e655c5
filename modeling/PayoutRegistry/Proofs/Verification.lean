import PayoutRegistry.Proofs.Codes
import PayoutRegistry.Proofs.Constraints

/-!
What verifying an account comes to, told by the rows of the table: which of the refusals it is, when it
succeeds, and what it then changes. The table may be any sound one, also one that no calls lead to.
-/
namespace PayoutRegistry

open Operation

section Decisions

variable {l : Ledger} {owner id : Uuid} {submitted code : String} {now : Instant} {a : Account}
  {r : Refusal}

/-- A code is refused for exactly the reasons that `Refused` lists. -/
theorem decideVerify_error_iff : (decideVerify owner id submitted now l).verdict = .error r ↔
    Refused now l (.verify owner id submitted) r := by
  constructor
  · exact decideVerify_error
  · intro h
    cases h with
    | unknown named absent =>
      obtain rfl := Option.some.inj named
      simp only [Action.owner] at absent
      simp only [decideVerify, onOwned, absent]
      rfl
    | reverified found proved =>
      simp only [decideVerify, onOwned, found, proved]
      rfl
    | uncoded found waiting unwritten =>
      simp only [decideVerify, onOwned, found, waiting]
      rcases unwritten with hc | hc <;> simp [hc, Decision.refuse]
    | mismatch found waiting stored written differs =>
      simp only [decideVerify, onOwned, found, waiting, stored]
      simp [differs, rejected, Decision.refuse]
    | expired found waiting stored written past =>
      simp only [decideVerify, onOwned, found, waiting, stored]
      simp [past, rejected, Decision.refuse]

theorem isPast_iff {deadline : Option Instant} : Code.isPast deadline now = true ↔
    deadline = none ∨ ∃ t, deadline = some t ∧ t < now := by
  cases deadline <;> simp [Code.isPast]

/-! ### Which refusal it is, by the row that the user has -/

theorem owned?_eq_none :
    l.owned? owner id = none ↔ ∀ a ∈ l.accounts, ¬(a.owner = owner ∧ a.id = id) := by
  simp only [Ledger.owned?, Ledger.ownedBy, List.find?_eq_none, List.mem_filter,
    decide_eq_true_eq, not_and, and_imp]

theorem refused_unknown_iff : Refused now l (.verify owner id submitted) (.accountNotFound id) ↔
    l.owned? owner id = none :=
  refused_absent_iff rfl

theorem refused_reverified_iff (found : l.owned? owner id = some a) :
    Refused now l (.verify owner id submitted)
      (.alreadyVerified Refusal.alreadyVerifiedDetail) ↔ a.isVerified = true := by
  constructor
  · intro h
    cases h with
    | reverified found' proved =>
      obtain rfl := Option.some.inj (found.symm.trans found')
      exact proved
  · exact .reverified found

theorem refused_uncoded_iff (found : l.owned? owner id = some a) :
    Refused now l (.verify owner id submitted) .noCodeIssued ↔
      a.isVerified = false ∧ (a.code = none ∨ a.code = some "") := by
  constructor
  · intro h
    cases h with
    | uncoded found' waiting unwritten =>
      obtain rfl := Option.some.inj (found.symm.trans found')
      exact ⟨waiting, unwritten⟩
  · rintro ⟨waiting, unwritten⟩
    exact .uncoded found waiting unwritten

theorem refused_mismatch_iff (found : l.owned? owner id = some a) :
    Refused now l (.verify owner id submitted) .codeMismatch ↔
      a.isVerified = false ∧ ∃ code, a.code = some code ∧ code ≠ "" ∧ submitted ≠ code := by
  constructor
  · intro h
    cases h with
    | mismatch found' waiting stored written differs =>
      obtain rfl := Option.some.inj (found.symm.trans found')
      exact ⟨waiting, _, stored, written, differs⟩
  · rintro ⟨waiting, code, stored, written, differs⟩
    exact .mismatch found waiting stored written differs

theorem refused_expired_iff (found : l.owned? owner id = some a) :
    (∃ minutes, Refused now l (.verify owner id submitted) (.codeExpired minutes)) ↔
      a.isVerified = false ∧ a.code = some submitted ∧ submitted ≠ "" ∧
        (a.deadline = none ∨ ∃ t, a.deadline = some t ∧ t < now) := by
  rw [← isPast_iff]
  constructor
  · rintro ⟨minutes, h⟩
    cases h with
    | expired found' waiting stored written past =>
      obtain rfl := Option.some.inj (found.symm.trans found')
      exact ⟨waiting, stored, written, past⟩
  · rintro ⟨waiting, stored, written, past⟩
    exact ⟨_, .expired found waiting stored written past⟩

end Decisions

section Calls

variable {c : Circumstances} {s : Store} {owner id : Uuid} {submitted : String} {a : Account}
  {r : Refusal}

theorem verify_refused_iff (hs : s.ledger.Sound) (hc : c.mishaps = calm) :
    (Operation.verify c owner id submitted s).result = .error (.refusal r) ↔
      Refused c.now s.ledger (.verify owner id submitted) r := by
  rw [Operation.verify, ofAttempt_result, map_eq_error, ← decideVerify_error_iff]
  exact Store.attempt_refused_iff hc fun _ => decideVerify_possible hs

/-- A verification that succeeds changes one row, which waited for the code that was submitted. -/
theorem verify_changes {v : Verified} (hs : s.ledger.Sound)
    (hv : (Operation.verify c owner id submitted s).result = .ok v) :
    ∃ a, s.ledger.owned? owner id = some a ∧ a.isVerified = false ∧ a.code = some submitted ∧
      submitted ≠ "" ∧ Code.isPast a.deadline c.now = false ∧
      v = { id, isVerified := true, isPrimary := decide (s.ledger.verifiedCount owner = 0) } ∧
      (Operation.verify c owner id submitted s).store.ledger =
        s.ledger.overwrite (admitted s.ledger a c.now) := by
  have hacc := verify_accepted hs hv
  generalize (Operation.verify c owner id submitted s).store.ledger = l at hacc ⊢
  cases hacc with
  | verify found waiting code written due =>
    exact ⟨_, found, waiting, code, written, due, rfl, rfl⟩

/-- A code that served serves no second time, also for one who was told to try again because time overtook the
commit. -/
theorem verify_overtaken {c' : Circumstances} {limit : Binary64} (hs : s.ledger.Sound)
    (hok : (s.attempt c.mishaps limit (decideVerify owner id submitted c.now)).result = .ok ())
    (hc' : c'.mishaps = calm) (again : String) :
    let left := (s.overtaken c.mishaps limit (decideVerify owner id submitted c.now)).closed
    (Operation.verify c' owner id again left).result =
        .error (.refusal (.alreadyVerified Refusal.alreadyVerifiedDetail)) ∧
      (Operation.verify c' owner id again left).store.ledger = left.ledger := by
  intro left
  obtain ⟨-, hstore, hclosed⟩ := Store.overtaken_kept hok
  obtain ⟨hacc, -, -⟩ := verified_attempt hs hok
  have hleft : left = (s.attempt c.mishaps limit (decideVerify owner id submitted c.now)).store :=
    hclosed.trans hstore
  rw [← hleft] at hacc
  have hsound : left.ledger.Sound := sound_accepted hs hacc
  have hrefused : (Operation.verify c' owner id again left).result =
      .error (.refusal (.alreadyVerified Refusal.alreadyVerifiedDetail)) := by
    rw [verify_refused_iff hsound hc']
    generalize left.ledger = l at hacc hsound ⊢
    cases hacc with
    | @verify _ _ _ a found =>
      obtain ⟨hm, rfl, rfl⟩ := Ledger.owned?_some found
      have hrow : admitted s.ledger a c.now ∈ (s.ledger.overwrite (admitted s.ledger a c.now)).accounts :=
        Ledger.mem_overwrite.mpr (Or.inl ⟨rfl, a, hm, rfl⟩)
      have howned : (s.ledger.overwrite (admitted s.ledger a c.now)).owned? a.owner a.id =
        some (admitted s.ledger a c.now) := Ledger.owned?_of_mem hsound hrow
      exact .reverified howned rfl
  exact ⟨hrefused, (undone_perform (a := .verify owner id again) (map_eq_error.mpr hrefused)).ledger⟩

theorem verify_owned_iff (hs : s.ledger.Sound) (hc : c.mishaps = calm)
    (found : s.ledger.owned? owner id = some a) :
    (∃ v, (Operation.verify c owner id submitted s).result = .ok v) ↔
      a.isVerified = false ∧ a.code = some submitted ∧ submitted ≠ "" ∧
        ∃ t, a.deadline = some t ∧ c.now ≤ t := by
  rw [← Code.isPast_eq_false]
  constructor
  · rintro ⟨v, hv⟩
    obtain ⟨b, found', waiting, code, written, due, -⟩ := verify_changes hs hv
    obtain rfl := Option.some.inj (found.symm.trans found')
    exact ⟨waiting, code, written, due⟩
  · rintro ⟨waiting, code, written, due⟩
    exact ⟨_, verify_calm hs hc found waiting code written due⟩

/-- The row that takes the place of one whose account was verified. -/
theorem overwrite_admitted (hs : s.ledger.Sound) (ha : a ∈ s.ledger.accounts) (now : Instant) :
    s.ledger.overwrite (admitted s.ledger a now) =
      { s.ledger with accounts := s.ledger.accounts.map fun b =>
          if b = a then admitted s.ledger a now else b } :=
  Ledger.overwrite_of_mem hs ha rfl

theorem verifiedCount_eq_zero_iff_others {l : Ledger} (hv : a.isVerified = false) :
    l.verifiedCount a.owner = 0 ↔
      ∀ b ∈ l.accounts, b.owner = a.owner → b ≠ a → b.isVerified = false := by
  rw [Ledger.verifiedCount_eq_zero]
  constructor
  · intro h b hb ho _
    exact h b hb ho
  · intro h b hb ho
    by_cases hba : b = a
    · rw [hba, hv]
    · exact h b hb ho hba

/-- What verifying an account comes to, on any sound table. Where no database call fails, the first check
that the row does not pass is the refusal. Whatever fails, success changes the one row as it says, and a
failure changes nothing. -/
theorem verify_outcome (c : Circumstances) (s : Store) (owner id : Uuid) (submitted : String)
    (hs : s.ledger.Sound) :
    let o := Operation.verify c owner id submitted s
    (c.mishaps = calm →
      (o.result = .error (.refusal (.accountNotFound id)) ↔
        ∀ a ∈ s.ledger.accounts, ¬(a.owner = owner ∧ a.id = id)) ∧
      ∀ a ∈ s.ledger.accounts, a.owner = owner → a.id = id →
        (o.result = .error (.refusal (.alreadyVerified Refusal.alreadyVerifiedDetail)) ↔
          a.isVerified = true) ∧
        (o.result = .error (.refusal .noCodeIssued) ↔
          a.isVerified = false ∧ (a.code = none ∨ a.code = some "")) ∧
        (o.result = .error (.refusal .codeMismatch) ↔
          a.isVerified = false ∧ ∃ code, a.code = some code ∧ code ≠ "" ∧ submitted ≠ code) ∧
        ((∃ minutes, o.result = .error (.refusal (.codeExpired minutes))) ↔
          a.isVerified = false ∧ a.code = some submitted ∧ submitted ≠ "" ∧
            (a.deadline = none ∨ ∃ t, a.deadline = some t ∧ t < c.now)) ∧
        ((∃ v, o.result = .ok v) ↔
          a.isVerified = false ∧ a.code = some submitted ∧ submitted ≠ "" ∧
            ∃ t, a.deadline = some t ∧ c.now ≤ t)) ∧
    (∀ v, o.result = .ok v → ∃ a ∈ s.ledger.accounts, a.owner = owner ∧ a.id = id ∧
      let first := decide (∀ b ∈ s.ledger.accounts, b.owner = owner → b ≠ a → b.isVerified = false)
      v = { id, isVerified := true, isPrimary := first } ∧
      o.store.ledger = { s.ledger with accounts := s.ledger.accounts.map fun b =>
        if b = a then
          { a with isVerified := true, isPrimary := first, code := none, deadline := none,
                   updatedAt := c.now }
        else b }) ∧
    ∀ f, o.result = .error f → o.store.ledger = s.ledger := by
  refine ⟨fun hc => ⟨?_, ?_⟩, ?_, ?_⟩
  · rw [verify_refused_iff hs hc, refused_unknown_iff, owned?_eq_none]
  · rintro a ha rfl rfl
    have found := Ledger.owned?_of_mem hs ha
    simp only [verify_refused_iff hs hc]
    exact ⟨refused_reverified_iff found, refused_uncoded_iff found, refused_mismatch_iff found,
      refused_expired_iff found, verify_owned_iff hs hc found⟩
  · intro v hv
    obtain ⟨a, found, waiting, -, -, -, rfl, hl⟩ := verify_changes hs hv
    obtain ⟨ha, rfl, rfl⟩ := Ledger.owned?_some found
    refine ⟨a, ha, rfl, rfl, ?_, ?_⟩
    · simp only [verifiedCount_eq_zero_iff_others waiting]
    · rw [hl, overwrite_admitted hs ha]
      simp only [admitted, verified, verifiedCount_eq_zero_iff_others waiting]
  · intro f hf
    rw [Operation.verify, ofAttempt_result] at hf
    rw [Operation.verify, ofAttempt_store]
    exact Store.attempt_error (map_eq_error.mp hf)

/-- A store that no calls lead to: a verified row that is not primary, a row that waits for a code, and
one with a code that was given no deadline. -/
def undated : Store :=
  { ledger := { users := [], accounts := [rowOf 2 "0123456789" true,
      { rowOf 3 "1234567890" false with code := some "123456", deadline := some default },
      { rowOf 4 "2345678901" false with code := some "123456" }] },
    serial := 4 }

/-- A wrong guess does not learn that there is no deadline. The right one does, and where there is a
deadline and it is now, it is accepted. -/
theorem undated_guesses :
    undated.ledger.Sound ∧
      (Operation.verify default (.ofSerial 1) (.ofSerial 4) "654321" undated).result =
        .error (.refusal .codeMismatch) ∧
      (∃ minutes, (Operation.verify default (.ofSerial 1) (.ofSerial 4) "123456" undated).result =
        .error (.refusal (.codeExpired minutes))) ∧
      ∃ v, (Operation.verify default (.ofSerial 1) (.ofSerial 3) "123456" undated).result = .ok v := by
  have hs : undated.ledger.Sound := ⟨by decide, by decide⟩
  have hrow : ∀ id submitted, _ := fun id submitted =>
    ((verify_outcome default undated (.ofSerial 1) id submitted hs).1 rfl).2
  obtain ⟨-, -, hmismatch, -, -⟩ := hrow (.ofSerial 4) "654321" _
    (List.mem_cons_of_mem _ (List.mem_cons_of_mem _ List.mem_cons_self)) rfl rfl
  obtain ⟨-, -, -, hexpired, -⟩ := hrow (.ofSerial 4) "123456" _
    (List.mem_cons_of_mem _ (List.mem_cons_of_mem _ List.mem_cons_self)) rfl rfl
  obtain ⟨-, -, -, -, hok⟩ := hrow (.ofSerial 3) "123456" _
    (List.mem_cons_of_mem _ List.mem_cons_self) rfl rfl
  exact ⟨hs, hmismatch.mpr ⟨rfl, _, rfl, by decide, by decide⟩,
    hexpired.mpr ⟨rfl, rfl, by decide, Or.inl rfl⟩,
    hok.mpr ⟨rfl, rfl, by decide, _, rfl, Nat.le_refl _⟩⟩

end Calls

end PayoutRegistry
