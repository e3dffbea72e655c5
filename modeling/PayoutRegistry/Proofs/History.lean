import PayoutRegistry.Operation.SignIn
import PayoutRegistry.Proofs.Rollback
import PayoutRegistry.Proofs.Serials

/-! Histories: what happened to the registry since it was empty, with the latest event first. -/
namespace PayoutRegistry

/-- Something that happens: a call on accounts, or somebody signing up. -/
inductive Event where
  | call (circumstances : Circumstances) (action : Action)
  | signup (circumstances : Circumstances) (form : SignupForm)

/-- The store after an event. -/
def Event.next (s : Store) : Event → Store
  | .call c a => (a.perform c s).store
  | .signup c form => ((Operation.signup c form s).commit c.mishaps 1).2

/-- The store after a history. -/
def after : List Event → Store
  | [] => .empty
  | e :: past => e.next (after past)

/-- A call that was made, and the store that it met. -/
structure Visit where
  circumstances : Circumstances
  action : Action
  before : Store

def Visit.outcome (v : Visit) : Outcome Answer := v.action.perform v.circumstances v.before

/-- The calls of a history. -/
def visits : List Event → List Visit
  | [] => []
  | .call circumstances action :: past =>
    { circumstances, action, before := after past } :: visits past
  | .signup .. :: past => visits past

/-- The store after events that began in a store. -/
def Store.later (s : Store) : List Event → Store
  | [] => s
  | e :: past => e.next (s.later past)

/-- The calls among events that began in a store. -/
def Store.visits (s : Store) : List Event → List Visit
  | [] => []
  | .call circumstances action :: past =>
    { circumstances, action, before := s.later past } :: s.visits past
  | .signup .. :: past => s.visits past

variable {c : Circumstances} {s : Store} {form : SignupForm}

/-- Putting in a user comes to the one statement if it is committed, and otherwise leaves the ledger alone. -/
theorem commit_insertUser {α : Type} (u : User) (g : Unit → Except Failure α) (n : Nat)
    {p : Pending Failure α} (hp : p = (s.carryOut c.mishaps [.flush [.insertUser u]]).andThen g) :
    s.serial ≤ (p.commit c.mishaps n).2.serial ∧
      (((∃ f, (p.commit c.mishaps n).1 = .error f) ∧ (p.commit c.mishaps n).2.ledger = s.ledger) ∨
        (∃ a, (p.commit c.mishaps n).1 = .ok a ∧ g () = .ok a) ∧
          s.ledger.execute (.insertUser u) = .ok (p.commit c.mishaps n).2.ledger ∧
          (p.commit c.mishaps n).2.serial = s.serial + 1) := by
  obtain ⟨hle, hused⟩ := Store.serial_carryOut s c.mishaps [.flush [.insertUser u]]
  have hserial : (p.commit c.mishaps n).2.serial = p.done.serial := Store.serial_commit p c.mishaps n
  subst hp
  refine ⟨hserial ▸ hle, ?_⟩
  rw [hserial]
  simp only [Pending.andThen, Pending.commit, Pending.committed]
  cases hc : s.ledger.carried c.mishaps 0 [.flush [.insertUser u]] with
  | error f =>
    simp only [Store.carryOut_error hc]
    exact .inl ⟨⟨f, rfl⟩, rfl⟩
  | ok l =>
    have he := effects_of_carried hc
    rw [Ledger.effects_one, Ledger.effect_flush_one] at he
    obtain ⟨hr, hd⟩ := Store.carryOut_ok hc
    simp only [hr, Except.bind]
    cases hg : g () with
    | error f => exact .inl ⟨⟨f, rfl⟩, rfl⟩
    | ok a =>
      cases c.mishaps (.commit n) with
      | some f => exact .inl ⟨⟨f, rfl⟩, rfl⟩
      | none => exact .inr ⟨⟨a, rfl, rfl⟩, he.trans (congrArg Except.ok hd.symm), hused hr⟩

/-- Signing up, in a unit of work of its own. -/
def Operation.enrol (c : Circumstances) (form : SignupForm) (s : Store) :
    Except Failure SignedIn × Store :=
  (Operation.signup c form s).commit c.mishaps 1

/-- Whoever signs up and is not turned away had a mail address that nobody had, and is put in with the next
number; otherwise nothing changes. -/
theorem enrol_cases (c : Circumstances) (form : SignupForm) (s : Store) :
    ((∃ f, (Operation.enrol c form s).1 = .error f) ∧
        (Operation.enrol c form s).2.ledger = s.ledger) ∨
      ∃ password token,
        s.ledger.userOfEmail? form.email = none ∧ Password.hash form.password = .ok password ∧
        (Operation.enrol c form s).1 =
          .ok { user := Operation.newUser s.nextId form password c.now, token } ∧
        Operation.tokenFor c (Operation.newUser s.nextId form password c.now) = .ok token ∧
        s.ledger.execute (.insertUser (Operation.newUser s.nextId form password c.now)) =
          .ok (Operation.enrol c form s).2.ledger ∧
        (Operation.enrol c form s).2.serial = s.serial + 1 := by
  simp only [Operation.enrol, Operation.signup]
  split
  · exact .inl ⟨⟨_, rfl⟩, rfl⟩
  · rename_i hnew
    split
    · exact .inl ⟨⟨_, rfl⟩, rfl⟩
    · rename_i password hp
      obtain h | ⟨⟨x, hx, hmade⟩, he, hserial⟩ := (commit_insertUser _ _ 1 rfl).2
      · exact .inl h
      · obtain ⟨token, htoken, rfl⟩ := map_eq_ok.mp hmade
        exact .inr ⟨password, token, by simpa using hnew, hp, hx, htoken, he, hserial⟩

/-- Signing up puts in a user with the next number, and nothing else changes. -/
theorem signup_ledger (c : Circumstances) (form : SignupForm) (s : Store) :
    ((Operation.signup c form s).commit c.mishaps 1).2.ledger = s.ledger ∨
      ∃ password, Password.hash form.password = .ok password ∧
        s.ledger.execute (.insertUser (Operation.newUser s.nextId form password c.now)) =
          .ok ((Operation.signup c form s).commit c.mishaps 1).2.ledger ∧
        ((Operation.signup c form s).commit c.mishaps 1).2.serial = s.serial + 1 := by
  obtain ⟨-, h⟩ | ⟨password, token, -, hp, -, -, h⟩ := enrol_cases c form s
  · exact .inl h
  · exact .inr ⟨password, hp, h⟩

theorem serial_signup (c : Circumstances) (form : SignupForm) (s : Store) :
    s.serial ≤ ((Operation.signup c form s).commit c.mishaps 1).2.serial := by
  simp only [Operation.signup]
  split
  · exact Nat.le_refl _
  · split
    · exact Nat.le_refl _
    · exact (commit_insertUser _ _ 1 rfl).1

theorem signup_accounts : ((Operation.signup c form s).commit c.mishaps 1).2.ledger.accounts =
    s.ledger.accounts := by
  obtain h | ⟨password, -, h⟩ := signup_ledger c form s
  · rw [h]
  · rw [Ledger.eq_of_insertUser h.1]

/-- What an event does to the ledger: nothing, what a call that succeeds does, or a new user. -/
theorem next_cases (h : s.ledger.Sound) (e : Event) :
    (e.next s).ledger = s.ledger ∨
      (∃ c a x, e = .call c a ∧ (a.perform c s).result = .ok x ∧
        Accepted c s a x (e.next s).ledger) ∨
      ∃ c form password, e = .signup c form ∧ Password.hash form.password = .ok password ∧
        s.ledger.execute (.insertUser (Operation.newUser s.nextId form password c.now)) =
          .ok (e.next s).ledger ∧ (e.next s).serial = s.serial + 1 := by
  cases e with
  | call c a =>
    cases hr : (a.perform c s).result with
    | ok x => exact .inr (.inl ⟨c, a, x, rfl, hr, perform_accepted h hr⟩)
    | error f => exact .inl (undone_perform hr).ledger
  | signup c form =>
    obtain hl | ⟨password, hp, hl⟩ := signup_ledger c form s
    · exact .inl hl
    · exact .inr (.inr ⟨c, form, password, rfl, hp, hl⟩)

theorem sound_next (h : s.ledger.Sound) (e : Event) : (e.next s).ledger.Sound := by
  obtain hl | ⟨c, a, x, -, -, ha⟩ | ⟨c, form, password, rfl, -, -⟩ := next_cases h e
  · exact hl ▸ h
  · exact sound_accepted h ha
  · have ha : ((Event.signup c form).next s).ledger.accounts = _ := signup_accounts
    exact ⟨ha ▸ h.apart, ha ▸ h.verified⟩

theorem sound_later (h : s.ledger.Sound) (events : List Event) : (s.later events).ledger.Sound := by
  induction events with
  | nil => exact h
  | cons e past ih => exact sound_next ih e

/-- What holds of the first ledger, and is kept by new users and by every call of a history, holds after
the history. -/
theorem after_induction {P : Ledger → Prop} (events : List Event) (empty : P .empty)
    (users : ∀ l l' : Ledger, l'.accounts = l.accounts → P l → P l')
    (call : ∀ (c : Circumstances) (s : Store) (a : Action) (x : Answer) (l : Ledger),
      Event.call c a ∈ events → s.ledger.Sound → P s.ledger → Accepted c s a x l → P l) :
    (after events).ledger.Sound ∧ P (after events).ledger := by
  induction events with
  | nil => exact ⟨Ledger.sound_empty, empty⟩
  | cons e past ih =>
    obtain ⟨hs, hp⟩ := ih fun c s a x l he => call c s a x l (List.mem_cons_of_mem e he)
    obtain hl | ⟨c, a, x, rfl, -, ha⟩ | ⟨c, form, password, rfl, -, -⟩ := next_cases hs e
    · exact ⟨hl ▸ hs, users _ _ (congrArg Ledger.accounts hl) hp⟩
    · exact ⟨sound_accepted hs ha, call c _ a x _ List.mem_cons_self hs hp ha⟩
    · have ha : (after (.signup c form :: past)).ledger.accounts = _ := signup_accounts
      exact ⟨⟨ha ▸ hs.apart, ha ▸ hs.verified⟩, users _ _ ha hp⟩

theorem sound_after (events : List Event) : (after events).ledger.Sound :=
  (after_induction (P := fun _ => True) events trivial (fun _ _ _ _ => trivial)
    fun _ _ _ _ _ _ _ _ _ => trivial).1

/-- A user adds an account, and a draw is made for its code. -/
def adding (owner : Uuid) (number : String) (draw : Nat) : Event :=
  .call default (.add (Delivery.withheld.send (.fault .overflow)) { id := owner, email := "" }
    { number, holder := "John Doe", bankName := "Test Bank", bankCode := "011" } none draw)

/-- A user adds an account, which gets the identifier with a serial number, and verifies it. -/
def joined (owner : Uuid) (number : String) (serial : Nat) : List Event :=
  [.call default (.verify owner (.ofSerial serial) "100000"), adding owner number 0]

end PayoutRegistry
