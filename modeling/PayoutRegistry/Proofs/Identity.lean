import PayoutRegistry.Proofs.History

/-!
What a row remains. Every row of a later state either continues a row of an earlier one, under the same
identifier, or has a number that was given in between.
-/
namespace PayoutRegistry

/-- The store has given the identifier to a row. -/
def Store.Given (s : Store) (id : Uuid) : Prop := ∃ n, n ≤ s.serial ∧ id = .ofSerial n

/-- All rows have identifiers that the store has given. -/
structure Store.Numbered (s : Store) : Prop where
  accounts : ∀ a ∈ s.ledger.accounts, s.Given a.id
  users : ∀ u ∈ s.ledger.users, s.Given u.id

/-- A row as it is later: it is still of the same account of the same user, and if it was verified then it
is so under the same names. -/
structure Account.Continues (a b : Account) : Prop extends b.Revises a where
  createdAt : b.createdAt = a.createdAt
  verified : a.isVerified = true →
    b.isVerified = true ∧ b.holder = a.holder ∧ b.bankName = a.bankName

namespace Account.Continues

variable {a b c : Account}

theorem refl (a : Account) : a.Continues a where
  id := rfl
  owner := rfl
  number := rfl
  bankCode := rfl
  createdAt := rfl
  verified h := ⟨h, rfl, rfl⟩

theorem trans (hab : a.Continues b) (hbc : b.Continues c) : a.Continues c where
  id := hbc.id.trans hab.id
  owner := hbc.owner.trans hab.owner
  number := hbc.number.trans hab.number
  bankCode := hbc.bankCode.trans hab.bankCode
  createdAt := hbc.createdAt.trans hab.createdAt
  verified h := by
    obtain ⟨hb, hholder, hname⟩ := hab.verified h
    obtain ⟨hc, hholder', hname'⟩ := hbc.verified hb
    exact ⟨hc, hholder'.trans hholder, hname'.trans hname⟩

/-- A row that waits may get other names and be verified. -/
theorem of_waiting (hr : b.Revises a) (hcreated : b.createdAt = a.createdAt)
    (hw : a.isVerified = false) : a.Continues b where
  toRevises := hr
  createdAt := hcreated
  verified h := by simp [hw] at h

end Account.Continues

/-! ### Numbers -/

section Numbers

variable {c : Circumstances} {s s' : Store} {a : Action} {x : Answer} {id : Uuid}

theorem Store.Given.mono (h : s.Given id) (hle : s.serial ≤ s'.serial) : s'.Given id := by
  obtain ⟨n, hn, rfl⟩ := h
  exact ⟨n, Nat.le_trans hn hle, rfl⟩

/-- An identifier that was given is not that of any later number. -/
theorem Store.Given.ne_ofSerial {n : Nat} (h : s.Given id) (hn : s.serial < n)
    (hsupply : n < Uuid.supply) : id ≠ .ofSerial n := by
  obtain ⟨m, hm, rfl⟩ := h
  intro he
  have := Uuid.ofSerial_inj (by omega) hsupply he
  omega

theorem Store.Numbered.free (h : s.Numbered) (hsupply : s.serial + 1 < Uuid.supply) :
    s.ledger.Free s.nextId :=
  fun a ha => (h.accounts a ha).ne_ofSerial (Nat.lt_succ_self _) hsupply

theorem serial_le_perform (c : Circumstances) (s : Store) (a : Action) :
    s.serial ≤ (a.perform c s).store.serial := by
  rw [store_perform]
  split
  · exact (Store.serial_attempt ..).1
  · exact Nat.le_refl _

theorem serial_le_next (s : Store) (e : Event) : s.serial ≤ (e.next s).serial := by
  cases e with
  | call c a => exact serial_le_perform c s a
  | signup c form => exact serial_signup c form s

theorem serial_le_after (later earlier : List Event) :
    (after earlier).serial ≤ (after (later ++ earlier)).serial := by
  induction later with
  | nil => exact Nat.le_refl _
  | cons e later ih => exact Nat.le_trans ih (serial_le_next _ e)

/-- An account that is put in uses up its number. -/
theorem serial_of_insert {courier : Courier} {owner : Owner} {form : AccountForm}
    {given : Option Int} {draw : Nat}
    (absent : s.ledger.registered? owner.id form.number form.bankCode = none)
    (hr : ((Action.add courier owner form given draw).perform c s).result = .ok x) :
    ((Action.add courier owner form given draw).perform c s).store.serial = s.serial + 1 := by
  obtain ⟨i, hi, -⟩ := map_eq_ok.mp hr
  obtain ⟨t, ht, hok⟩ := add_ok hi
  have hused := (Store.serial_attempt s c.mishaps c.settings.databaseTimeout
    (Operation.decideAdd s.nextId owner.id form (Code.ofDraw draw) t c.now)).2 _
    (Operation.decideAdd_absent absent) hok
  simp only [Action.perform, Outcome.map, add_store ht]
  exact hused

end Numbers

/-! ### One event -/

section Steps

variable {c : Circumstances} {s : Store} {a : Action} {x : Answer} {l : Ledger} {b : Account}

/-- After a call that succeeds each row continues one from before it, or is new. -/
theorem continues_accepted (ha : Accepted c s a x l) (hb : b ∈ l.accounts) :
    (∃ d ∈ s.ledger.accounts, d.Continues b) ∨
      b.id = s.nextId ∧ ∃ courier owner form given draw, a = .add courier owner form given draw ∧
        s.ledger.registered? owner.id form.number form.bankCode = none := by
  cases ha with
  | refresh found waiting _ =>
    obtain ⟨hm, -⟩ := Ledger.registered?_some found
    rcases Ledger.mem_overwrite.mp hb with ⟨rfl, -⟩ | ⟨hb, -⟩
    · exact Or.inl ⟨_, hm, .of_waiting ⟨rfl, rfl, rfl, rfl⟩ rfl waiting⟩
    · exact Or.inl ⟨b, hb, .refl b⟩
  | @insert courier owner form given draw _ absent _ _ =>
    rcases Ledger.mem_extended.mp hb with hb | rfl
    · exact Or.inl ⟨b, hb, .refl b⟩
    · exact Or.inr ⟨rfl, courier, owner, form, given, draw, rfl, absent⟩
  | verify found waiting _ _ _ =>
    obtain ⟨hm, -⟩ := Ledger.owned?_some found
    rcases Ledger.mem_overwrite.mp hb with ⟨rfl, -⟩ | ⟨hb, -⟩
    · exact Or.inl ⟨_, hm, .of_waiting ⟨rfl, rfl, rfl, rfl⟩ rfl waiting⟩
    · exact Or.inl ⟨b, hb, .refl b⟩
  | promote _ _ =>
    rcases Ledger.mem_rewritten.mp hb with ⟨hb, -⟩ | ⟨d, hd, -, rfl⟩
    · exact Or.inl ⟨b, hb, .refl b⟩
    · exact Or.inl ⟨d, hd, ⟨rfl, rfl, rfl, rfl⟩, rfl, fun h => ⟨h, rfl, rfl⟩⟩
  | delete _ _ => exact Or.inl ⟨b, (Ledger.mem_without.mp hb).1, .refl b⟩
  | list => exact Or.inl ⟨b, hb, .refl b⟩

/-- After an event each row continues one from before it, or has the number that was given. -/
theorem continues_next (hs : s.ledger.Sound) (e : Event) (hb : b ∈ (e.next s).ledger.accounts) :
    (∃ d ∈ s.ledger.accounts, d.Continues b) ∨
      b.id = s.nextId ∧ (e.next s).serial = s.serial + 1 := by
  obtain hl | ⟨c, a, x, rfl, hr, ha⟩ | ⟨c, form, password, rfl, -, -⟩ := next_cases hs e
  · rw [hl] at hb
    exact Or.inl ⟨b, hb, .refl b⟩
  · rcases continues_accepted ha hb with hd | ⟨hid, courier, owner, form, given, draw, rfl, absent⟩
    · exact Or.inl hd
    · exact Or.inr ⟨hid, serial_of_insert absent hr⟩
  · have hl : (Event.next s (.signup c form)).ledger.accounts = s.ledger.accounts := signup_accounts
    rw [hl] at hb
    exact Or.inl ⟨b, hb, .refl b⟩

theorem users_accepted (ha : Accepted c s a x l) : l.users = s.ledger.users := by
  cases ha <;> rfl

theorem numbered_next (hs : s.ledger.Sound) (h : s.Numbered) (e : Event) : (e.next s).Numbered := by
  have hle := serial_le_next s e
  constructor
  · intro b hb
    rcases continues_next hs e hb with ⟨d, hd, hc⟩ | ⟨hid, hserial⟩
    · exact hc.id ▸ (h.accounts d hd).mono hle
    · exact ⟨s.serial + 1, Nat.le_of_eq hserial.symm, hid⟩
  · intro u hu
    obtain hl | ⟨c, a, x, rfl, -, ha⟩ | ⟨c, form, password, rfl, -, he, hserial⟩ := next_cases hs e
    · rw [hl] at hu
      exact (h.users u hu).mono hle
    · rw [users_accepted ha] at hu
      exact (h.users u hu).mono hle
    · rw [Ledger.eq_of_insertUser he] at hu
      rcases List.mem_append.mp hu with hu | hu
      · exact (h.users u hu).mono hle
      · rw [List.mem_singleton.mp hu]
        exact ⟨s.serial + 1, Nat.le_of_eq hserial.symm, rfl⟩

end Steps

/-! ### Histories -/

theorem numbered_after (events : List Event) : (after events).Numbered := by
  induction events with
  | nil => exact ⟨nofun, nofun⟩
  | cons e past ih => exact numbered_next (sound_after past) ih e

/-- Each row of a later state continues one of an earlier state, or has a number that was given since. -/
theorem continues_after (earlier later : List Event) {b : Account}
    (hb : b ∈ (after (later ++ earlier)).ledger.accounts) :
    (∃ a ∈ (after earlier).ledger.accounts, a.Continues b) ∨
      ∃ n, (after earlier).serial < n ∧ n ≤ (after (later ++ earlier)).serial ∧
        b.id = .ofSerial n := by
  induction later generalizing b with
  | nil => exact Or.inl ⟨b, hb, .refl b⟩
  | cons e later ih =>
    rcases continues_next (sound_after (later ++ earlier)) e hb with ⟨d, hd, hdb⟩ | ⟨hid, hserial⟩
    · rcases ih hd with ⟨a, ha, had⟩ | ⟨n, hn, hle, hid⟩
      · exact Or.inl ⟨a, ha, had.trans hdb⟩
      · exact Or.inr ⟨n, hn, Nat.le_trans hle (serial_le_next _ e), hdb.id.trans hid⟩
    · have hle := serial_le_after later earlier
      exact Or.inr ⟨_, Nat.lt_succ_of_le hle, Nat.le_of_eq hserial.symm, hid⟩

/-- No number that is given later stands for a row of an earlier state. -/
theorem free_after {earlier later : List Event} {a : Account}
    (hsupply : (after (later ++ earlier)).serial < Uuid.supply)
    (ha : (after earlier).Given a.id) (hfree : (after earlier).ledger.Free a.id) :
    (after (later ++ earlier)).ledger.Free a.id := by
  intro b hb hid
  rcases continues_after earlier later hb with ⟨d, hd, hc⟩ | ⟨n, hlt, hle, hn⟩
  · exact hfree d hd (hc.id.symm.trans hid)
  · exact ha.ne_ofSerial hlt (by omega) (hid.symm.trans hn)

theorem continues_of_id {earlier later : List Event} {a b : Account}
    (hsupply : (after (later ++ earlier)).serial < Uuid.supply)
    (ha : a ∈ (after earlier).ledger.accounts)
    (hb : b ∈ (after (later ++ earlier)).ledger.accounts) (hid : b.id = a.id) : a.Continues b := by
  rcases continues_after earlier later hb with ⟨d, hd, hc⟩ | ⟨n, hlt, hle, hn⟩
  · obtain rfl := (sound_after earlier).eq_of_id hd ha (hc.id.symm.trans hid)
    exact hc
  · exact absurd (hid.symm.trans hn)
      (((numbered_after earlier).accounts a ha).ne_ofSerial hlt (by omega))

/-- Take three states of a run in which the numbers do not run out. In each state, all rows differ in their
identifiers and in what they say they are. A row with the identifier of an earlier one continues it. An
identifier that is gone does not come back, and an account that is added anew gets one that no earlier row
had. -/
theorem rows_keep_identity (earlier later further : List Event)
    (hsupply : (after (further ++ (later ++ earlier))).serial + 1 < Uuid.supply) :
    let s := after earlier
    let s' := after (later ++ earlier)
    let s'' := after (further ++ (later ++ earlier))
    (s'.ledger.accounts.Pairwise fun a b => a.id ≠ b.id ∧
        ¬(a.owner = b.owner ∧ a.number = b.number ∧ a.bankCode = b.bankCode)) ∧
      (∀ a ∈ s.ledger.accounts, ∀ b ∈ s'.ledger.accounts, b.id = a.id → a.Continues b) ∧
      (∀ a ∈ s.ledger.accounts, s'.ledger.Free a.id → s''.ledger.Free a.id) ∧
      ∀ (c : Circumstances) (courier : Courier) (owner : Owner) (form : AccountForm)
        (given : Option Int) (draw : Nat) (i : Issued),
        (Operation.add c courier owner form given draw s').result = .ok i →
        s'.ledger.registered? owner.id form.number form.bankCode = none →
          ∀ a ∈ s.ledger.accounts, a.id ≠ i.id := by
  have hle := serial_le_after further (later ++ earlier)
  have hgiven : ∀ a ∈ (after earlier).ledger.accounts, (after (later ++ earlier)).Given a.id :=
    fun a ha => ((numbered_after earlier).accounts a ha).mono (serial_le_after later earlier)
  refine ⟨?_, ?_, ?_, ?_⟩
  · refine (sound_after (later ++ earlier)).apart.imp ?_
    intro a b hab
    obtain ⟨hid, hkey, -⟩ := Ledger.compatible_iff.mp hab
    exact ⟨hid, hkey⟩
  · intro a ha b hb hid
    exact continues_of_id (by omega) ha hb hid
  · intro a ha hfree
    exact free_after (by omega) (hgiven a ha) hfree
  · intro c courier owner form given draw i hi absent a ha
    obtain ⟨t, ht, hok⟩ := add_ok hi
    rw [add_succeeded courier ht hok] at hi
    obtain rfl := Except.ok.inj hi
    simp only [addedId, absent, Option.map_none, Option.getD_none]
    exact (hgiven a ha).ne_ofSerial (Nat.lt_succ_self _) (by omega)

/-- A second account is added, deleted, and added again: its identifier is gone, and it gets another. -/
theorem readded_account_gets_new_id :
    let owner : Uuid := .ofSerial 9
    let earlier := adding owner "9876543210" 0 :: joined owner "0123456789" 1
    let later : List Event := [.call default (.delete owner (.ofSerial 2))]
    let further := [adding owner "9876543210" 7]
    (after (further ++ (later ++ earlier))).serial + 1 < Uuid.supply ∧
      (∃ a ∈ (after earlier).ledger.accounts, a.id = .ofSerial 2 ∧ a.number = "9876543210") ∧
      (after (further ++ (later ++ earlier))).ledger.Free (.ofSerial 2) ∧
      ∃ a ∈ (after (further ++ (later ++ earlier))).ledger.accounts,
        a.id = .ofSerial 3 ∧ a.number = "9876543210" := by
  intro owner earlier later further
  have hsupply : (after (further ++ (later ++ earlier))).serial + 1 < Uuid.supply := by
    decide +kernel
  obtain ⟨a, ha, hid, hnumber⟩ : ∃ a ∈ (after earlier).ledger.accounts,
      a.id = .ofSerial 2 ∧ a.number = "9876543210" := by
    decide +kernel
  have hgone : ∀ b ∈ (after (later ++ earlier)).ledger.accounts, b.id ≠ .ofSerial 2 := by
    decide +kernel
  obtain ⟨-, -, hfree, -⟩ := rows_keep_identity earlier later further hsupply
  have hstays := hfree a ha (hid ▸ hgone)
  rw [hid] at hstays
  exact ⟨hsupply, ⟨a, ha, hid, hnumber⟩, hstays, by decide +kernel⟩

end PayoutRegistry
