import PayoutRegistry.Proofs.History
import PayoutRegistry.Proofs.Instants

/-!
Which code verifies which account. A row remembers what the calls of the history left it waiting for, so
the latest code that was issued for an account is the only one that verifies it, and only for its owner.
-/
namespace PayoutRegistry

/-- What verifies an account: a code that its owner submits, no later than at an instant. -/
structure Wait where
  owner : Uuid
  code : String
  deadline : Instant

/-- What a row waits for, unless it is verified. -/
def Account.wait? (a : Account) : Option Wait :=
  if a.isVerified then none
  else match a.code, a.deadline with
    | some code, some deadline => some { owner := a.owner, code, deadline }
    | _, _ => none

def Ledger.wait? (l : Ledger) (id : Uuid) : Option Wait := (l.account? id).bind Account.wait?

/-- The account that a successful call settles, and what it waits for from then on. -/
def settled? (c : Circumstances) : Action → Answer → Option (Uuid × Option Wait)
  | .add _ owner _ _ draw, .issued i =>
    some (i.id, (Code.deadline? i.minutes c.now).map fun deadline =>
      { owner := owner.id, code := Code.ofDraw draw, deadline })
  | .verify _ id _, .verified _ => some (id, none)
  | .delete _ id, .deleted => some (id, none)
  | _, _ => none

/-- Only adding leaves an account waiting for something. -/
theorem settled?_some {c : Circumstances} {a : Action} {x : Answer} {id : Uuid} {w : Wait}
    (h : settled? c a x = some (id, some w)) :
    ∃ courier owner form given draw minutes t, a = .add courier owner form given draw ∧
      x = .issued { id, minutes } ∧ Code.deadline? minutes c.now = some t ∧
      w = { owner := owner.id, code := Code.ofDraw draw, deadline := t } := by
  simp only [settled?] at h
  split at h
  · rename_i courier owner form given draw i
    simp only [Option.some.injEq, Prod.mk.injEq, Option.map_eq_some_iff] at h
    obtain ⟨rfl, t, ht, rfl⟩ := h
    exact ⟨courier, owner, form, given, draw, i.minutes, t, rfl, rfl, ht, rfl⟩
  · cases h
  · cases h
  · cases h

theorem Code.isPast_eq_false {deadline : Option Instant} {now : Instant} :
    Code.isPast deadline now = false ↔ ∃ t, deadline = some t ∧ now ≤ t := by
  cases deadline with
  | none => simp [Code.isPast]
  | some t =>
    have hlt : ¬t < now ↔ now ≤ t := Nat.not_lt
    simpa [Code.isPast] using hlt

namespace Ledger

variable {l : Ledger} {a b : Account} {i id owner : Uuid} {w : Wait} {now : Instant}

theorem wait?_overwrite (hb : b ∈ l.accounts) (hid : b.id = a.id) :
    (l.overwrite a).wait? id = if a.id = id then a.wait? else l.wait? id := by
  simp only [wait?, account?_overwrite]
  cases hf : l.account? id with
  | none =>
    have hne : a.id ≠ id := by
      intro he
      have := List.find?_eq_none.mp hf b hb
      simp [hid, he] at this
    simp [hne]
  | some c =>
    have hc : c.id = id := (account?_some hf).2
    by_cases he : a.id = id
    · simp [he, hc]
    · simp [he, hc, Ne.symm he]

theorem wait?_promoted : (l.promoted a now).wait? id = l.wait? id := by
  simp only [wait?, promoted]
  rw [account?_rewritten]
  · cases l.account? id with
    | none => rfl
    | some c =>
      simp only [Option.map_some, Option.bind_some]
      split <;> rfl
  · intro b
    rfl

theorem wait?_extended (hf : l.Free a.id) :
    (l.extended a).wait? id = if a.id = id then a.wait? else l.wait? id := by
  simp only [wait?, account?_extended hf]
  split <;> rfl

theorem wait?_without : (l.without i).wait? id = if i = id then none else l.wait? id := by
  simp only [wait?, account?_without]
  split <;> rfl

theorem wait?_some (h : l.wait? id = some w) : ∃ a, l.account? id = some a ∧
    a.isVerified = false ∧ a.owner = w.owner ∧ a.code = some w.code ∧
      a.deadline = some w.deadline := by
  simp only [wait?, Account.wait?, Option.bind_eq_some_iff] at h
  obtain ⟨a, ha, h⟩ := h
  refine ⟨a, ha, ?_⟩
  split at h
  · cases h
  · rename_i hv
    split at h
    · rename_i hc hd
      cases h
      exact ⟨by simpa using hv, rfl, hc, hd⟩
    · cases h

end Ledger

section Calls

variable {c : Circumstances} {s : Store} {a : Action} {x : Answer} {l : Ledger}

/-- A call that succeeds changes what one account waits for, at most. -/
theorem wait?_accepted (ha : Accepted c s a x l) (id : Uuid) :
    l.wait? id = match settled? c a x with
      | some (i, w) => if i = id then w else s.ledger.wait? id
      | none => s.ledger.wait? id := by
  cases ha with
  | @refresh _ _ form _ draw a t found _ due =>
    obtain ⟨hm, ho, -⟩ := Ledger.registered?_some found
    have hid : a.id = (Operation.refreshed a form (Code.ofDraw draw) t c.now).id := rfl
    rw [Ledger.wait?_overwrite hm hid]
    simp only [settled?, due, Option.map_some, ← ho]
    rfl
  | insert _ free due =>
    rw [Ledger.wait?_extended free]
    simp only [settled?, due, Option.map_some]
    rfl
  | @verify _ _ _ a found _ _ _ _ =>
    obtain ⟨hm, -, rfl⟩ := Ledger.owned?_some found
    have hid : a.id = (admitted s.ledger a c.now).id := rfl
    rw [Ledger.wait?_overwrite hm hid]
    rfl
  | promote _ _ => exact Ledger.wait?_promoted
  | delete _ _ => exact Ledger.wait?_without
  | list => rfl

/-- A code is taken exactly if the ledger has it waiting, for this user and still at this time. -/
theorem verify_ok_iff (hs : s.ledger.Sound) (hc : c.mishaps = calm) (owner id : Uuid)
    (submitted : String) : (∃ v, (Operation.verify c owner id submitted s).result = .ok v) ↔
      submitted ≠ "" ∧ ∃ t, s.ledger.wait? id = some { owner, code := submitted, deadline := t } ∧
        c.now ≤ t := by
  constructor
  · rintro ⟨v, hv⟩
    have hacc := verify_accepted hs hv
    generalize (Operation.verify c owner id submitted s).store.ledger = l at hacc
    cases hacc with
    | verify found waiting code written due =>
      obtain ⟨hm, rfl, rfl⟩ := Ledger.owned?_some found
      obtain ⟨t, deadline, hdue⟩ := Code.isPast_eq_false.mp due
      refine ⟨written, t, ?_, hdue⟩
      simp only [Ledger.wait?, Ledger.account?_of_mem hs hm, Option.bind_some, Account.wait?,
        waiting, code, deadline]
      rfl
  · rintro ⟨written, t, hw, hdue⟩
    obtain ⟨a, ha, waiting, rfl, code, deadline⟩ := Ledger.wait?_some hw
    obtain ⟨hm, rfl⟩ := Ledger.account?_some ha
    have due := Code.isPast_eq_false.mpr ⟨t, deadline, hdue⟩
    exact ⟨_, verify_calm hs hc (Ledger.owned?_of_mem hs hm) waiting code written due⟩

theorem add_issued {courier : Courier} {owner : Owner} {form : AccountForm} {given : Option Int}
    {draw : Nat} {i : Issued}
    (hr : (Operation.add c courier owner form given draw s).result = .ok i) :
    ∃ t, Code.deadline? i.minutes c.now = some t ∧
      i.minutes = given.getD c.settings.codeMinutes ∧
      (Operation.add c courier owner form given draw s).handovers =
        [{ email := owner.email, code := Code.ofDraw draw }] := by
  obtain ⟨t, ht, hok⟩ := add_ok hr
  rw [add_succeeded courier ht hok] at hr ⊢
  obtain rfl := Except.ok.inj hr
  exact ⟨t, ht, rfl, rfl⟩

end Calls

theorem Code.deadline?_some {minutes : Int} {now t : Instant}
    (h : Code.deadline? minutes now = some t) :
    (t.micros : Int) = now.micros + minutes * microsPerMinute :=
  Instant.add?_eq_some.mp h

/-! ### What the history says -/

namespace Visit

/-- The account that a call settled, if it succeeded. -/
def settled? (v : Visit) : Option (Uuid × Option Wait) :=
  match v.outcome.result with
  | .ok x => PayoutRegistry.settled? v.circumstances v.action x
  | .error _ => none

/-- The call added the account for its owner, and gave the courier a code that is valid for minutes. -/
def Issued (v : Visit) (owner id : Uuid) (code : String) (minutes : Int) : Prop :=
  ∃ courier email form given draw, v.action = .add courier { id := owner, email } form given draw ∧
    minutes = given.getD v.circumstances.settings.codeMinutes ∧
    v.outcome.result = .ok (.issued { id, minutes }) ∧
    v.outcome.handovers = [{ email, code }]

/-- The call added, verified or deleted the account. -/
def Settles (v : Visit) (id : Uuid) : Prop :=
  (∃ courier owner form given draw minutes, v.action = .add courier owner form given draw ∧
    v.outcome.result = .ok (.issued { id, minutes })) ∨
  (∃ owner submitted x, v.action = .verify owner id submitted ∧
    v.outcome.result = .ok (.verified x)) ∨
  ∃ owner, v.action = .delete owner id ∧ v.outcome.result = .ok .deleted

variable {v : Visit} {id owner : Uuid} {code : String} {minutes : Int} {now : Instant}

theorem settles_iff : v.Settles id ↔ ∃ w, v.settled? = some (id, w) := by
  constructor
  · rintro (⟨_, _, _, _, _, _, ha, hr⟩ | ⟨_, _, _, ha, hr⟩ | ⟨_, ha, hr⟩)
    · exact ⟨_, by simp only [settled?, hr, ha, PayoutRegistry.settled?]; rfl⟩
    · exact ⟨_, by simp only [settled?, hr, ha, PayoutRegistry.settled?]; rfl⟩
    · exact ⟨_, by simp only [settled?, hr, ha, PayoutRegistry.settled?]; rfl⟩
  · rintro ⟨w, hw⟩
    simp only [settled?] at hw
    split at hw
    · rename_i x hr
      simp only [PayoutRegistry.settled?] at hw
      split at hw
      · rename_i ha
        cases hw
        exact Or.inl ⟨_, _, _, _, _, _, ha, hr⟩
      · rename_i ha
        cases hw
        exact Or.inr (Or.inl ⟨_, _, _, ha, hr⟩)
      · rename_i ha
        cases hw
        exact Or.inr (Or.inr ⟨_, ha, hr⟩)
      · cases hw
    · cases hw

/-- A code that was given to the courier is what the row waits for, for as many minutes as it says. -/
theorem issued_iff : (∃ minutes, v.Issued owner id code minutes ∧
      (now.micros : Int) ≤ v.circumstances.now.micros + minutes * microsPerMinute) ↔
    ∃ deadline, v.settled? = some (id, some { owner, code, deadline }) ∧ now ≤ deadline := by
  obtain ⟨c, a, s⟩ := v
  constructor
  · rintro ⟨minutes, ⟨courier, email, form, given, draw, ha, hm, hr, hh⟩, hnow⟩
    change a = _ at ha
    subst ha
    obtain ⟨i, hi, hiss⟩ := map_eq_ok.mp hr
    cases hiss
    obtain ⟨t, ht, -, hsent⟩ := add_issued hi
    obtain rfl : Code.ofDraw draw = code := by
      have hsame := hsent.symm.trans hh
      simpa using hsame
    refine ⟨t, ?_, ?_⟩
    · simp only [settled?, hr, PayoutRegistry.settled?, ht, Option.map_some]
    · have hmicros := Code.deadline?_some ht
      exact Int.ofNat_le.mp (hmicros ▸ hnow)
  · rintro ⟨t, hw, hnow⟩
    simp only [settled?] at hw
    split at hw
    · rename_i x hr
      obtain ⟨courier, addr, form, given, draw, minutes, u, rfl, rfl, hu, hwait⟩ := settled?_some hw
      cases hwait
      obtain ⟨i, hi, hiss⟩ := map_eq_ok.mp hr
      cases hiss
      obtain ⟨-, -, hminutes, hsent⟩ := add_issued hi
      have hmicros := Code.deadline?_some hu
      refine ⟨minutes, ⟨courier, addr.email, form, given, draw, rfl, hminutes, hr, hsent⟩, ?_⟩
      exact hmicros ▸ Int.ofNat_le.mpr hnow
    · cases hw

end Visit

/-- What an account waits for after visits, of which the latest comes first. -/
def awaited (id : Uuid) : List Visit → Option Wait
  | [] => none
  | v :: earlier => match v.settled? with
    | some (i, w) => if i = id then w else awaited id earlier
    | none => awaited id earlier

theorem wait?_after (events : List Event) (id : Uuid) :
    (after events).ledger.wait? id = awaited id (visits events) := by
  induction events with
  | nil => rfl
  | cons e past ih =>
    cases e with
    | call c a =>
      have hs := sound_after past
      simp only [visits, awaited, Visit.settled?]
      change (a.perform c (after past)).store.ledger.wait? id = _
      cases hr : (a.perform c (after past)).result with
      | ok x =>
        rw [wait?_accepted (perform_accepted hs hr) id]
        simp only [Visit.outcome, hr, ← ih]
      | error f =>
        rw [(undone_perform hr).ledger]
        simp only [Visit.outcome, hr, ← ih]
    | signup c form =>
      have ha : (after (.signup c form :: past)).ledger.accounts = _ := signup_accounts
      rw [visits, ← ih]
      simp only [Ledger.wait?, Ledger.account?, ha]

/-- The latest member of a list with a property is its head, or comes after a head without it. -/
theorem exists_latest_cons {α : Type} {p q : α → Prop} {x : α} {xs : List α} :
    (∃ later y earlier, x :: xs = later ++ y :: earlier ∧ q y ∧ ∀ z ∈ later, ¬p z) ↔
      q x ∨ ¬p x ∧ ∃ later y earlier, xs = later ++ y :: earlier ∧ q y ∧ ∀ z ∈ later, ¬p z := by
  constructor
  · rintro ⟨later, y, earlier, hxs, hy, hlater⟩
    cases later with
    | nil =>
      cases hxs
      exact Or.inl hy
    | cons z later =>
      cases hxs
      obtain ⟨hx, hlater⟩ := List.forall_mem_cons.mp hlater
      exact Or.inr ⟨hx, later, y, earlier, rfl, hy, hlater⟩
  · rintro (hx | ⟨hx, later, y, earlier, rfl, hy, hlater⟩)
    · exact ⟨[], x, xs, rfl, hx, nofun⟩
    · exact ⟨x :: later, y, earlier, rfl, hy, List.forall_mem_cons.mpr ⟨hx, hlater⟩⟩

/-- What is waited for was left by a visit, and no later visit settled the account. -/
theorem awaited_eq_some {id : Uuid} {vs : List Visit} {w : Wait} : awaited id vs = some w ↔
    ∃ later issue earlier, vs = later ++ issue :: earlier ∧
      issue.settled? = some (id, some w) ∧ ∀ v ∈ later, ¬v.Settles id := by
  induction vs with
  | nil => simp [awaited]
  | cons v vs ih =>
    rw [exists_latest_cons, ← ih, Visit.settles_iff, awaited]
    cases v.settled? with
    | none => simp
    | some e =>
      obtain ⟨i, x⟩ := e
      by_cases hi : i = id <;> simp [hi]

theorem settled?_written {c : Circumstances} {a : Action} {x : Answer} {id : Uuid} {w : Wait}
    (h : settled? c a x = some (id, some w)) : w.code ≠ "" := by
  obtain ⟨_, _, _, _, draw, _, _, -, -, -, rfl⟩ := settled?_some h
  exact Nat.repr_ne_empty

theorem verified_alone_iff {s : Store} {c : Circumstances} {owner id : Uuid} {submitted : String}
    {v : Verified} (hs : s.ledger.Sound)
    (hv : (Operation.verify c owner id submitted s).result = .ok v) : v.id = id ∧
      (v.isPrimary = true ↔ ∀ a ∈ s.ledger.accounts, a.owner = owner → a.id ≠ id →
        a.isVerified = false) := by
  have hacc := verify_accepted hs hv
  generalize (Operation.verify c owner id submitted s).store.ledger = l at hacc
  cases hacc with
  | @verify _ _ _ b found waiting _ _ _ =>
    refine ⟨rfl, ?_⟩
    rw [decide_eq_true_iff, Ledger.verifiedCount_eq_zero]
    constructor
    · intro h a ha ho _
      exact h a ha ho
    · intro h a ha ho
      by_cases hid : a.id = id
      · -- The account itself was not verified before.
        obtain ⟨hm, -, rfl⟩ := Ledger.owned?_some found
        rw [hs.eq_of_id ha hm hid]
        exact waiting
      · exact h a ha ho hid

/-- A code verifies an account exactly if it is the one that was issued to this user for this account
by the latest visit that settled it, and its minutes have not run out. The account becomes primary exactly
if the user has no other verified one. -/
theorem verify_iff_latest_code (events : List Event) (settings : Settings) (now : Instant)
    (owner id : Uuid) (submitted : String) :
    ((∃ v, (Operation.verify { settings, now, mishaps := calm } owner id submitted
        (after events)).result = .ok v) ↔
      ∃ later issue earlier, visits events = later ++ issue :: earlier ∧
        (∃ minutes, issue.Issued owner id submitted minutes ∧
          (now.micros : Int) ≤ issue.circumstances.now.micros + minutes * microsPerMinute) ∧
        ∀ v ∈ later, ¬v.Settles id) ∧
    ∀ v, (Operation.verify { settings, now, mishaps := calm } owner id submitted
        (after events)).result = .ok v → v.id = id ∧
      (v.isPrimary = true ↔ ∀ a ∈ (after events).ledger.accounts, a.owner = owner → a.id ≠ id →
        a.isVerified = false) := by
  have hs := sound_after events
  refine ⟨?_, fun v hv => verified_alone_iff hs hv⟩
  rw [verify_ok_iff hs rfl, wait?_after]
  constructor
  · rintro ⟨-, t, hw, hdue⟩
    obtain ⟨later, issue, earlier, hvs, hset, hlater⟩ := awaited_eq_some.mp hw
    exact ⟨later, issue, earlier, hvs, Visit.issued_iff.mpr ⟨t, hset, hdue⟩, hlater⟩
  · rintro ⟨later, issue, earlier, hvs, hissue, hlater⟩
    obtain ⟨t, hset, hdue⟩ := Visit.issued_iff.mp hissue
    have hw := awaited_eq_some.mpr ⟨later, issue, earlier, hvs, hset, hlater⟩
    refine ⟨?_, t, hw, hdue⟩
    simp only [Visit.settled?] at hset
    split at hset
    · exact settled?_written hset
    · cases hset

end PayoutRegistry
