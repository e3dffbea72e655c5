import PayoutRegistry.Operation.Add
import PayoutRegistry.Operation.Promote
import PayoutRegistry.Operation.Remove
import PayoutRegistry.Operation.Verify
import PayoutRegistry.Proofs.Rows
import PayoutRegistry.Proofs.UnitOfWork

/-!
The calls that clients make on accounts, and the ways in which each of them can succeed. Everything that
is said of runs goes through `Accepted`; nothing below it opens an operation again.
-/
namespace PayoutRegistry

deriving instance Inhabited for Settings

/-- Circumstances in which no call fails. -/
instance : Inhabited Circumstances := ⟨{ settings := default, now := default, mishaps := calm }⟩

/-- A call on the accounts of a user. -/
inductive Action where
  | add (courier : Courier) (owner : Owner) (form : AccountForm) (minutes : Option Int) (draw : Nat)
  | verify (owner id : Uuid) (submitted : String)
  | promote (owner id : Uuid)
  | delete (owner id : Uuid)
  | list (owner : Uuid)

/-- What a call that succeeds gives back. -/
inductive Answer where
  | issued (i : Issued)
  | verified (v : Verified)
  | promoted (p : Promoted)
  | deleted
  | listed (accounts : List Account)
deriving DecidableEq

namespace Outcome

def map {α β : Type} (f : α → β) (o : Outcome α) : Outcome β :=
  { store := o.store, log := o.log, handovers := o.handovers, posted := o.posted,
    result := o.result.map f, lasting := o.lasting, sent := o.sent }

end Outcome

namespace Action

/-- The user whose accounts a call is about. -/
def owner : Action → Uuid
  | .add _ owner _ _ _ => owner.id
  | .verify owner _ _ | .promote owner _ | .delete owner _ | .list owner => owner

def perform (c : Circumstances) (s : Store) : Action → Outcome Answer
  | .add courier owner form minutes draw =>
    (Operation.add c courier owner form minutes draw s).map .issued
  | .verify owner id submitted => (Operation.verify c owner id submitted s).map .verified
  | .promote owner id => (Operation.promote c owner id s).map .promoted
  | .delete owner id => (Operation.delete c owner id s).map fun _ => .deleted
  | .list owner => (Operation.list c owner s).map .listed

/-- How a call decides on what is to be done, if it comes to that. -/
def judge? (c : Circumstances) (s : Store) : Action → Option (Ledger → Decision)
  | .add _ owner form given draw =>
    (Code.deadline? (given.getD c.settings.codeMinutes) c.now).map fun t =>
      Operation.decideAdd s.nextId owner.id form (Code.ofDraw draw) t c.now
  | .verify owner id submitted => some (Operation.decideVerify owner id submitted c.now)
  | .promote owner id => some (Operation.decidePromote owner id c.now)
  | .delete owner id => some (Operation.decideDelete owner id)
  | .list _ => none

end Action

open Operation

/-- The row of an account that was just verified: primary if its user has no verified one yet. -/
def admitted (l : Ledger) (a : Account) (now : Instant) : Account :=
  { verified a now with isPrimary := decide (l.verifiedCount a.owner = 0) }

/-- The ways in which a call can succeed: its answer, and the ledger after it. -/
inductive Accepted (c : Circumstances) (s : Store) : Action → Answer → Ledger → Prop
  | refresh {courier : Courier} {owner : Owner} {form : AccountForm} {given : Option Int}
      {draw : Nat} {a : Account} {t : Instant}
      (found : s.ledger.registered? owner.id form.number form.bankCode = some a)
      (waiting : a.isVerified = false)
      (due : Code.deadline? (given.getD c.settings.codeMinutes) c.now = some t) :
      Accepted c s (.add courier owner form given draw)
        (.issued { id := a.id, minutes := given.getD c.settings.codeMinutes })
        (s.ledger.overwrite (refreshed a form (Code.ofDraw draw) t c.now))
  | insert {courier : Courier} {owner : Owner} {form : AccountForm} {given : Option Int}
      {draw : Nat} {t : Instant}
      (absent : s.ledger.registered? owner.id form.number form.bankCode = none)
      (free : s.ledger.Free s.nextId)
      (due : Code.deadline? (given.getD c.settings.codeMinutes) c.now = some t) :
      Accepted c s (.add courier owner form given draw)
        (.issued { id := s.nextId, minutes := given.getD c.settings.codeMinutes })
        (s.ledger.extended (newAccount s.nextId owner.id form (Code.ofDraw draw) t c.now))
  | verify {owner id : Uuid} {submitted : String} {a : Account}
      (found : s.ledger.owned? owner id = some a) (waiting : a.isVerified = false)
      (code : a.code = some submitted) (written : submitted ≠ "")
      (due : Code.isPast a.deadline c.now = false) :
      Accepted c s (.verify owner id submitted)
        (.verified { id, isVerified := true, isPrimary := decide (s.ledger.verifiedCount owner = 0) })
        (s.ledger.overwrite (admitted s.ledger a c.now))
  | promote {owner id : Uuid} {a : Account}
      (found : s.ledger.owned? owner id = some a) (proved : a.isVerified = true) :
      Accepted c s (.promote owner id) (.promoted { id, isPrimary := true })
        (s.ledger.promoted a c.now)
  | delete {owner id : Uuid} {a : Account}
      (found : s.ledger.owned? owner id = some a) (spare : a.isPrimary = false) :
      Accepted c s (.delete owner id) .deleted (s.ledger.without id)
  | list {owner : Uuid} : Accepted c s (.list owner) (.listed (s.ledger.listing owner)) s.ledger

/-! ### What the steps of each operation do to a sound ledger -/

namespace Ledger

variable {l l' : Ledger} {a b : Account} {owner id : Uuid} {now : Instant}

theorem effects_one (s : Step) : [s].foldlM Step.effect l = s.effect l := by
  rw [List.foldlM_cons]
  cases s.effect l <;> rfl

theorem effect_flush_one (s : Statement) : Step.effect l (.flush [s]) = l.execute s := by
  change [s].foldlM execute l = _
  rw [List.foldlM_cons]
  cases l.execute s <;> rfl

theorem effects_refresh (h : Sound l) (ha : a ∈ l.accounts) (hv : a.isVerified = false)
    (form : AccountForm) (code : String) (t now : Instant) :
    [Step.flush [.update (refreshed a form code t now)]].foldlM Step.effect l =
      .ok (l.overwrite (refreshed a form code t now)) := by
  rw [effects_one, effect_flush_one]
  refine execute_update (fits_revision h ha ⟨rfl, rfl, rfl, rfl⟩ ?_)
  intro hp
  rw [show (refreshed a form code t now).isPrimary = a.isPrimary from rfl,
    h.not_primary ha hv] at hp
  cases hp

theorem effects_insert_ok
    (h : [Step.flush [.insert a]].foldlM Step.effect l = .ok l') :
    l.Free a.id ∧ l' = l.extended a := by
  rw [effects_one, effect_flush_one] at h
  simp only [execute] at h
  split at h
  · rename_i hf
    cases h
    obtain ⟨-, hc⟩ := fits_iff.mp hf
    exact ⟨fun b hb hid => (compatible_iff.mp (hc b hb)).1 hid.symm, rfl⟩
  · cases h

theorem effects_insert {form : AccountForm} {code : String} {t : Instant}
    (hn : l.registered? owner form.number form.bankCode = none) (hf : l.Free id) :
    [Step.flush [.insert (newAccount id owner form code t now)]].foldlM Step.effect l =
      .ok (l.extended (newAccount id owner form code t now)) := by
  rw [effects_one, effect_flush_one]
  refine execute_insert (fits_iff.mpr ⟨nofun, fun b hb => ?_⟩)
  refine compatible_iff.mpr ⟨fun hid => hf b hb hid.symm, ?_, fun hp => nomatch hp.2.1⟩
  rintro ⟨ho, hnum, hcode⟩
  exact registered?_none hn hb ho.symm ⟨hnum.symm, hcode.symm⟩

theorem verified_revises (a : Account) (now : Instant) : (verified a now).Revises a :=
  ⟨rfl, rfl, rfl, rfl⟩

theorem fits_verified (h : Sound l) (ha : a ∈ l.accounts) (hv : a.isVerified = false)
    (now : Instant) :
    fits (verified a now) (l.accounts.filter (·.id ≠ (verified a now).id)) = true := by
  refine fits_revision h ha (verified_revises a now) ?_
  intro hp
  rw [show (verified a now).isPrimary = a.isPrimary from rfl, h.not_primary ha hv] at hp
  cases hp

theorem effect_verified (h : Sound l) (ha : a ∈ l.accounts) (hv : a.isVerified = false) :
    Step.effect l (.flush [.update (verified a now)]) = .ok (l.overwrite (verified a now)) := by
  rw [effect_flush_one, execute_update (fits_verified h ha hv now)]

/-- Right after its row was written, the account is to become primary if it is the only one. -/
theorem claimant?_verified (h : Sound l) (ha : a ∈ l.accounts) (hv : a.isVerified = false) :
    (l.overwrite (verified a now)).claimant? a.owner a.id =
      if l.verifiedCount a.owner = 0 then some (verified a now) else none := by
  have hcount : (l.overwrite (verified a now)).verifiedCount a.owner =
      l.verifiedCount a.owner + 1 :=
    verifiedCount_overwrite h ha (verified_revises a now) hv rfl
  have hm : verified a now ∈ (l.overwrite (verified a now)).accounts :=
    mem_overwrite.mpr (Or.inl ⟨rfl, a, ha, rfl⟩)
  have hfound : (l.overwrite (verified a now)).account? a.id = some (verified a now) :=
    account?_of_mem (sound_overwrite h (fits_verified h ha hv now)) hm
  rw [claimant?, hcount, hfound]
  simp

theorem effects_verify (h : Sound l) (ha : a ∈ l.accounts) (hv : a.isVerified = false) :
    [Step.flush [.update (verified a now)], .claim a.owner a.id now].foldlM Step.effect l =
      .ok (l.overwrite (admitted l a now)) := by
  have hp : a.isPrimary = false := h.not_primary ha hv
  have hs := sound_overwrite h (fits_verified h ha hv now)
  have hm : verified a now ∈ (l.overwrite (verified a now)).accounts :=
    mem_overwrite.mpr (Or.inl ⟨rfl, a, ha, rfl⟩)
  rw [List.foldlM_cons, effect_verified h ha hv]
  change [Step.claim a.owner a.id now].foldlM Step.effect (l.overwrite (verified a now)) = _
  rw [effects_one]
  simp only [Step.effect, claimant?_verified h ha hv]
  by_cases hz : l.verifiedCount a.owner = 0
  · simp only [hz, ↓reduceIte]
    rw [if_neg (by simp [verified, hp]), execute_update]
    · simp only [overwrite, List.map_map, admitted, hz, decide_true]
      congr 2
      refine List.map_congr_left fun b _ => ?_
      by_cases hid : b.id = a.id <;> simp [verified, hid]
    · refine fits_revision hs hm ⟨rfl, rfl, rfl, rfl⟩ fun _ => ⟨rfl, ?_⟩
      -- Nobody else is verified, so nobody else is primary.
      intro b hb ho hid
      rcases mem_overwrite.mp hb with ⟨rfl, -⟩ | ⟨hb, -⟩
      · exact absurd rfl hid
      · exact h.not_primary hb (verifiedCount_eq_zero.mp hz b hb ho)
  · simp only [hz, ↓reduceIte]
    rw [show admitted l a now = verified a now by simp [admitted, hz, verified, hp]]

theorem made_verify (h : Sound l) (ha : a ∈ l.accounts) (hv : a.isVerified = false) :
    l.made 0 [.flush [.update (verified a now)], .claim a.owner a.id now] =
      .flush 1 :: .count :: if l.verifiedCount a.owner = 0 then [.flush 2] else [] := by
  simp only [made, Step.calls, Step.flushes, effect_verified h ha hv, kept,
    claimant?_verified h ha hv]
  by_cases hz : l.verifiedCount a.owner = 0 <;> simp [hz]

theorem effects_promote (h : Sound l) (ha : a ∈ l.accounts) (hv : a.isVerified = true) :
    [Step.clear a.owner now, .flush [],
        .flush [.update { a with isPrimary := true, updatedAt := now }]].foldlM Step.effect l =
      .ok (l.promoted a now) := by
  have hs : Sound (l.cleared a.owner now) := sound_cleared h
  have hm : { a with isPrimary := false, updatedAt := now } ∈ (l.cleared a.owner now).accounts :=
    mem_rewritten.mpr (Or.inr ⟨a, ha, rfl, rfl⟩)
  rw [List.foldlM_cons, Step.effect, execute_clearPrimary h]
  change [Step.flush [], .flush [.update { a with isPrimary := true, updatedAt := now }]].foldlM
    Step.effect (l.cleared a.owner now) = _
  rw [List.foldlM_cons]
  change [Step.flush [.update { a with isPrimary := true, updatedAt := now }]].foldlM
    Step.effect (l.cleared a.owner now) = _
  rw [effects_one, effect_flush_one, ← overwrite_cleared h ha]
  refine execute_update (fits_revision hs hm ⟨rfl, rfl, rfl, rfl⟩ fun _ => ⟨hv, ?_⟩)
  intro b hb ho _
  rcases mem_rewritten.mp hb with ⟨-, hne⟩ | ⟨c, -, -, rfl⟩
  · exact absurd ho hne
  · rfl

theorem sound_statements {statements : List Statement} (h : Sound l)
    (he : statements.foldlM execute l = .ok l') : Sound l' := by
  induction statements generalizing l with
  | nil =>
    cases he
    exact h
  | cons s statements ih =>
    rw [List.foldlM_cons] at he
    cases hs : l.execute s with
    | error f =>
      rw [hs] at he
      cases he
    | ok l₁ =>
      rw [hs] at he
      exact ih (sound_execute h hs) he

theorem sound_effect {s : Step} (h : Sound l) (he : s.effect l = .ok l') : Sound l' := by
  cases s with
  | flush statements => exact sound_statements h he
  | clear owner now => exact sound_execute (s := .clearPrimary owner now) h he
  | claim owner id now =>
    simp only [Step.effect] at he
    split at he
    · split at he
      · cases he
        exact h
      · exact sound_execute h he
    · cases he
      exact h
  | remove id => exact sound_execute (s := .remove id) h he

theorem sound_effects {steps : List Step} (h : Sound l)
    (he : steps.foldlM Step.effect l = .ok l') : Sound l' := by
  induction steps generalizing l with
  | nil =>
    cases he
    exact h
  | cons s steps ih =>
    rw [List.foldlM_cons] at he
    cases hs : s.effect l with
    | error f =>
      rw [hs] at he
      cases he
    | ok l₁ =>
      rw [hs] at he
      exact ih (sound_effect h hs) he

end Ledger

/-! ### Decisions to take steps -/

namespace Operation

variable {l : Ledger} {owner id : Uuid} {now t : Instant} {steps : List Step}

/-! What an operation changes of a row always counts as a change, so that it is written. -/

theorem changes_refreshed (a : Account) (form : AccountForm) (code : String) (t now : Instant) :
    Statement.changes { a with deadline := none } (refreshed a form code t now) =
      [.update (refreshed a form code t now)] := by
  refine Statement.changes_of_ne ?_
  intro h
  cases congrArg Account.deadline h

theorem changes_verified {a : Account} (h : a.isVerified = false) :
    Statement.changes a (verified a now) = [.update (verified a now)] := by
  refine Statement.changes_of_ne ?_
  intro hsame
  have hverified : true = a.isVerified := congrArg Account.isVerified hsame
  rw [h] at hverified
  cases hverified

theorem changes_promoted (a : Account) (now : Instant) :
    Statement.changes { a with isPrimary := false } { a with isPrimary := true, updatedAt := now } =
      [.update { a with isPrimary := true, updatedAt := now }] := by
  refine Statement.changes_of_ne ?_
  intro h
  cases congrArg Account.isPrimary h

theorem onOwned_ok {judge : Account → Decision}
    (h : (onOwned owner id judge l).verdict = .ok steps) :
    ∃ a, l.owned? owner id = some a ∧ (judge a).verdict = .ok steps := by
  simp only [onOwned] at h
  split at h
  · cases h
  · rename_i a ha
    exact ⟨a, ha, h⟩

theorem decideAdd_ok {form : AccountForm} {code : String}
    (h : (decideAdd id owner form code t now l).verdict = .ok steps) :
    (∃ a, l.registered? owner form.number form.bankCode = some a ∧ a.isVerified = false ∧
        steps = [.flush [.update (refreshed a form code t now)]]) ∨
      (l.registered? owner form.number form.bankCode = none ∧
        steps = [.flush [.insert (newAccount id owner form code t now)]]) := by
  simp only [decideAdd] at h
  split at h
  · rename_i a ha
    split at h
    · cases h
    · rename_i hv
      cases h
      exact Or.inl ⟨a, ha, by simpa using hv, by rw [changes_refreshed]⟩
  · rename_i hn
    cases h
    exact Or.inr ⟨hn, rfl⟩

theorem decideAdd_absent {form : AccountForm} {code : String}
    (h : l.registered? owner form.number form.bankCode = none) :
    (decideAdd id owner form code t now l).verdict =
      .ok [.flush [.insert (newAccount id owner form code t now)]] := by
  simp only [decideAdd, h]
  rfl

theorem decideAdd_log {form : AccountForm} {code : String} :
    (decideAdd id owner form code t now l).log = [] := by
  simp only [decideAdd]
  split
  · split <;> rfl
  · rfl

theorem decideVerify_ok {submitted : String}
    (h : (decideVerify owner id submitted now l).verdict = .ok steps) :
    ∃ a, l.owned? owner id = some a ∧ a.isVerified = false ∧ a.code = some submitted ∧
      submitted ≠ "" ∧ Code.isPast a.deadline now = false ∧
      steps = [.flush [.update (verified a now)], .claim owner id now] := by
  obtain ⟨a, ha, h⟩ := onOwned_ok h
  refine ⟨a, ha, ?_⟩
  split at h
  · cases h
  · rename_i hv
    split at h
    · cases h
    · cases h
    · rename_i code hwritten hcode
      split at h
      · cases h
      · rename_i hsame
        split at h
        · cases h
        · rename_i hdue
          cases h
          obtain rfl : submitted = code := not_not.mp hsame
          have hwaits : a.isVerified = false := by simpa using hv
          exact ⟨hwaits, hcode, hwritten, by simpa using hdue, by rw [changes_verified hwaits]⟩

theorem decidePromote_ok (h : (decidePromote owner id now l).verdict = .ok steps) :
    ∃ a, l.owned? owner id = some a ∧ a.isVerified = true ∧ steps = [.clear owner now,
      .flush [], .flush [.update { a with isPrimary := true, updatedAt := now }]] := by
  obtain ⟨a, ha, h⟩ := onOwned_ok h
  refine ⟨a, ha, ?_⟩
  split at h
  · rename_i hv
    cases h
    exact ⟨hv, by rw [changes_promoted]⟩
  · cases h

theorem decideDelete_ok (h : (decideDelete owner id l).verdict = .ok steps) :
    ∃ a, l.owned? owner id = some a ∧ a.isPrimary = false ∧ steps = [.remove id] := by
  obtain ⟨a, ha, h⟩ := onOwned_ok h
  refine ⟨a, ha, ?_⟩
  split at h
  · cases h
  · rename_i hp
    cases h
    exact ⟨by simpa using hp, rfl⟩

end Operation

/-! ### What calls come to -/

section Outcomes

variable {c : Circumstances} {s : Store} {x : Answer} {l : Ledger}

theorem ofAttempt_store {α : Type} (a : Attempt Failure) (line : LogRecord) (r : Ledger → α) :
    (Outcome.ofAttempt a line r).store = a.store := by
  simp only [Outcome.ofAttempt]
  split <;> rfl

theorem ofAttempt_result {α : Type} (a : Attempt Failure) (line : LogRecord) (r : Ledger → α) :
    (Outcome.ofAttempt a line r).result = a.result.map fun _ => r a.store.ledger := by
  simp only [Outcome.ofAttempt]
  split
  · rename_i h
    rw [h]
    rfl
  · rename_i h
    rw [h]
    rfl

/-- Listing fails if the reading does, and nothing else can go wrong. -/
theorem list_failed {owner : Uuid} {f : Failure} (hm : c.mishaps .read = some f) :
    Operation.list c owner s = .failed s f := by
  rw [Operation.list, hm]

theorem list_read {owner : Uuid} (hm : c.mishaps .read = none) :
    Operation.list c owner s = .read s (s.ledger.listing owner) := by
  rw [Operation.list, hm]

/-- Listing leaves nothing but its result. -/
theorem list_eq (owner : Uuid) : ∃ result, Operation.list c owner s =
    { store := s, log := [], handovers := [], posted := [], result } := by
  cases hm : c.mishaps .read with
  | some f => exact ⟨.error f, list_failed hm⟩
  | none => exact ⟨.ok (s.ledger.listing owner), list_read hm⟩

theorem list_store (owner : Uuid) : (Operation.list c owner s).store = s := by
  obtain ⟨result, h⟩ := @list_eq c s owner
  rw [h]

theorem map_eq_ok {α β : Type} {f : α → β} {e : Except Failure α} {b : β} :
    e.map f = .ok b ↔ ∃ a, e = .ok a ∧ f a = b := by
  cases e <;> simp [Except.map]

/-- An operation that goes through one attempt succeeds by taking steps. -/
theorem ofAttempt_ok {α : Type} {m : Mishaps} {limit : Binary64} {judge : Ledger → Decision}
    {line : LogRecord} {r : Ledger → α} {a : α}
    (h : (Outcome.ofAttempt (s.attempt m limit judge) line r).result = .ok a) :
    ∃ steps, (judge s.ledger).verdict = .ok steps ∧ steps.foldlM Step.effect s.ledger =
        .ok (s.attempt m limit judge).store.ledger ∧
      a = r (s.attempt m limit judge).store.ledger := by
  rw [ofAttempt_result] at h
  obtain ⟨⟨⟩, hok, rfl⟩ := map_eq_ok.mp h
  obtain ⟨steps, hv, hw, -⟩ := Store.attempt_ok hok
  exact ⟨steps, hv, effects_of_worked hw, rfl⟩

theorem account?_admitted {a : Account} (ha : a ∈ l.accounts) (now : Instant) :
    (l.overwrite (admitted l a now)).account? a.id = some (admitted l a now) := by
  obtain ⟨b, hb⟩ : ∃ b, l.account? a.id = some b := by
    refine Option.isSome_iff_exists.mp (List.find?_isSome.mpr ⟨a, ha, ?_⟩)
    simp
  simp only [Ledger.account?_overwrite, hb]
  simp [admitted, verified, (Ledger.account?_some hb).2]

theorem verified_attempt {limit : Binary64} {owner id : Uuid} {submitted : String}
    (h : s.ledger.Sound)
    (hok : (s.attempt c.mishaps limit (decideVerify owner id submitted c.now)).result = .ok ()) :
    Accepted c s (.verify owner id submitted)
        (.verified { id, isVerified := true, isPrimary := decide (s.ledger.verifiedCount owner = 0) })
        (s.attempt c.mishaps limit (decideVerify owner id submitted c.now)).store.ledger ∧
      isVerified (s.attempt c.mishaps limit (decideVerify owner id submitted c.now)).store.ledger id = true ∧
      isPrimary (s.attempt c.mishaps limit (decideVerify owner id submitted c.now)).store.ledger id =
        decide (s.ledger.verifiedCount owner = 0) := by
  obtain ⟨steps, hv, hw, -⟩ := Store.attempt_ok hok
  obtain ⟨a, ha, hw', hcode, hne, hdue, rfl⟩ := decideVerify_ok hv
  have he := effects_of_worked hw
  obtain ⟨hmem, rfl, rfl⟩ := Ledger.owned?_some ha
  rw [Ledger.effects_verify h hmem hw'] at he
  rw [← Except.ok.inj he, isVerified, isPrimary, account?_admitted hmem]
  exact ⟨.verify ha hw' hcode hne hdue, rfl, rfl⟩

theorem verify_accepted {owner id : Uuid} {submitted : String} {v : Verified} (h : s.ledger.Sound)
    (hr : (Operation.verify c owner id submitted s).result = .ok v) :
    Accepted c s (.verify owner id submitted) (.verified v)
      (Operation.verify c owner id submitted s).store.ledger := by
  simp only [Operation.verify, ofAttempt_result] at hr
  obtain ⟨⟨⟩, hok, rfl⟩ := map_eq_ok.mp hr
  obtain ⟨hacc, hv, hp⟩ := verified_attempt h hok
  rw [Operation.verify, ofAttempt_store, hv, hp]
  exact hacc

theorem promoted_attempt {limit : Binary64} {owner id : Uuid} (h : s.ledger.Sound)
    (hok : (s.attempt c.mishaps limit (decidePromote owner id c.now)).result = .ok ()) :
    Accepted c s (.promote owner id) (.promoted { id, isPrimary := true })
        (s.attempt c.mishaps limit (decidePromote owner id c.now)).store.ledger ∧
      isPrimary (s.attempt c.mishaps limit (decidePromote owner id c.now)).store.ledger id = true := by
  obtain ⟨steps, hv, hw, -⟩ := Store.attempt_ok hok
  obtain ⟨a, ha, hproved, rfl⟩ := decidePromote_ok hv
  have he := effects_of_worked hw
  obtain ⟨hmem, rfl, rfl⟩ := Ledger.owned?_some ha
  rw [Ledger.effects_promote h hmem hproved] at he
  rw [← Except.ok.inj he, isPrimary, Ledger.account?_promoted h hmem]
  exact ⟨.promote ha hproved, rfl⟩

theorem promote_accepted {owner id : Uuid} {p : Promoted} (h : s.ledger.Sound)
    (hr : (Operation.promote c owner id s).result = .ok p) :
    Accepted c s (.promote owner id) (.promoted p)
      (Operation.promote c owner id s).store.ledger := by
  simp only [Operation.promote, ofAttempt_result] at hr
  obtain ⟨⟨⟩, hok, rfl⟩ := map_eq_ok.mp hr
  obtain ⟨hacc, hp⟩ := promoted_attempt h hok
  rw [Operation.promote, ofAttempt_store, hp]
  exact hacc

theorem delete_accepted {owner id : Uuid} (hr : (Operation.delete c owner id s).result = .ok ()) :
    Accepted c s (.delete owner id) .deleted (Operation.delete c owner id s).store.ledger := by
  obtain ⟨steps, hv, he, -⟩ := ofAttempt_ok hr
  obtain ⟨a, ha, hp, rfl⟩ := decideDelete_ok hv
  rw [Operation.delete, ofAttempt_store, ← Except.ok.inj he]
  exact .delete ha hp

/-- The attempt that adding makes once the deadline is known. -/
def addAttempt (c : Circumstances) (owner : Owner) (form : AccountForm) (draw : Nat) (t : Instant)
    (s : Store) : Attempt Failure :=
  s.attempt c.mishaps c.settings.databaseTimeout
    (decideAdd s.nextId owner.id form (Code.ofDraw draw) t c.now)

/-- The identifier of the account that is added, be it new or not. -/
def addedId (owner : Owner) (form : AccountForm) (s : Store) : Uuid :=
  ((s.ledger.registered? owner.id form.number form.bankCode).map (·.id)).getD s.nextId

variable {courier : Courier} {owner : Owner} {form : AccountForm} {given : Option Int} {draw : Nat}

theorem add_failed {t : Instant} {f : Failure}
    (ht : Code.deadline? (given.getD c.settings.codeMinutes) c.now = some t)
    (hf : (addAttempt c owner form draw t s).result = .error f) :
    Operation.add c courier owner form given draw s = .ofFailedAttempt (addAttempt c owner form draw t s) f := by
  simp only [addAttempt] at hf ⊢
  simp only [Operation.add, ht, hf]

/-- The log of adding behind that of its attempt; the account may have been there before. -/
def issueLog (courier : Courier) (owner : Owner) (draw : Nat) (earlier : Option Account) (id : Uuid) :
    List LogRecord :=
  let sent := courier owner.email (Code.ofDraw draw)
  note "Verification code issued" owner.id id [("reused", .bool earlier.isSome)] :: sent.log ++
    match sent.result with
    | .ok () => []
    | .error f => [undelivered owner.id id f]

theorem add_succeeded (courier : Courier) {t : Instant}
    (ht : Code.deadline? (given.getD c.settings.codeMinutes) c.now = some t)
    (hok : (addAttempt c owner form draw t s).result = .ok ()) :
    Operation.add c courier owner form given draw s =
      { store := (addAttempt c owner form draw t s).store,
        log := (addAttempt c owner form draw t s).log ++ issueLog courier owner draw
          (s.ledger.registered? owner.id form.number form.bankCode) (addedId owner form s),
        handovers := [{ email := owner.email, code := Code.ofDraw draw }],
        posted := (courier owner.email (Code.ofDraw draw)).request.toList,
        result := .ok { id := addedId owner form s,
                        minutes := given.getD c.settings.codeMinutes },
        lasting := (addAttempt c owner form draw t s).session.lasting,
        sent := (addAttempt c owner form draw t s).session.draft.sent } := by
  simp only [addAttempt] at hok ⊢
  simp only [Operation.add, ht, hok, issueLog, List.append_assoc]
  rfl

theorem add_ok {i : Issued}
    (hr : (Operation.add c courier owner form given draw s).result = .ok i) :
    ∃ t, Code.deadline? (given.getD c.settings.codeMinutes) c.now = some t ∧
      (addAttempt c owner form draw t s).result = .ok () := by
  cases ht : Code.deadline? (given.getD c.settings.codeMinutes) c.now with
  | none => simp [Operation.add, ht, Outcome.failed] at hr
  | some t =>
    refine ⟨t, rfl, ?_⟩
    cases hres : (addAttempt c owner form draw t s).result with
    | ok => rfl
    | error f =>
      rw [add_failed ht hres] at hr
      cases hr

/-- Adding fails for want of a deadline, or as its attempt does. -/
theorem add_error {f : Failure}
    (hr : (Operation.add c courier owner form given draw s).result = .error f) :
    (Code.deadline? (given.getD c.settings.codeMinutes) c.now = none ∧ f = .overflow) ∨
      ∃ t, Code.deadline? (given.getD c.settings.codeMinutes) c.now = some t ∧
        (addAttempt c owner form draw t s).result = .error f := by
  cases ht : Code.deadline? (given.getD c.settings.codeMinutes) c.now with
  | none =>
    simp only [Operation.add, ht] at hr
    exact Or.inl ⟨rfl, (Except.error.inj hr).symm⟩
  | some t =>
    refine Or.inr ⟨t, rfl, ?_⟩
    cases hres : (addAttempt c owner form draw t s).result with
    | ok =>
      rw [add_succeeded courier ht hres] at hr
      cases hr
    | error f' =>
      rw [add_failed ht hres] at hr
      exact congrArg Except.error (Except.error.inj hr)

/-- Whatever becomes of sending the code, adding leaves the store that its attempt leaves. -/
theorem add_store {t : Instant}
    (ht : Code.deadline? (given.getD c.settings.codeMinutes) c.now = some t) :
    (Operation.add c courier owner form given draw s).store =
      (addAttempt c owner form draw t s).store := by
  cases hres : (addAttempt c owner form draw t s).result with
  | ok => rw [add_succeeded courier ht hres]
  | error f => rw [add_failed ht hres, Outcome.ofFailedAttempt]

/-! ### Sessions at the end of a call -/

/-- Nothing is left in the session of an operation that would still have to be made last or undone. -/
def Outcome.Settled {α : Type} (o : Outcome α) : Prop := o.store.ledger = o.lasting

/-- The session of a settled operation may be committed or rolled back: the store stays. -/
theorem Outcome.Settled.commit {α : Type} {o : Outcome α} (h : o.Settled) (m : Mishaps) (n : Nat) :
    (o.pending.commit m n).2 = o.store := by
  have hlasting : o.lasting = o.store.ledger := Eq.symm h
  have hrollback : o.pending.session.rollback.store = o.store := by
    simp only [Outcome.pending, Session.rollback, Session.store, hlasting]
  simp only [Pending.commit, Pending.committed]
  cases hr : o.pending.result with
  | error f =>
    simp only [hr]
    exact hrollback
  | ok a =>
    cases m (.commit n) with
    | none => rfl
    | some f => exact hrollback

theorem settled_ofAttempt {α : Type} {m : Mishaps} {limit : Binary64} {judge : Ledger → Decision}
    (line : LogRecord) (r : Ledger → α) : (Outcome.ofAttempt (s.attempt m limit judge) line r).Settled := by
  have h := Store.attempt_settled s m limit judge
  simp only [Outcome.ofAttempt]
  split <;> exact h

theorem settled_add : (Operation.add c courier owner form given draw s).Settled := by
  cases ht : Code.deadline? (given.getD c.settings.codeMinutes) c.now with
  | none =>
    simp only [Operation.add, ht]
    rfl
  | some t =>
    have h : (addAttempt c owner form draw t s).store.ledger =
      (addAttempt c owner form draw t s).session.lasting := Store.attempt_settled ..
    cases hres : (addAttempt c owner form draw t s).result with
    | ok =>
      rw [add_succeeded courier ht hres]
      exact h
    | error f =>
      rw [add_failed ht hres]
      exact h

theorem settled_list (owner : Uuid) : (Operation.list c owner s).Settled := by
  obtain ⟨result, h⟩ := @list_eq c s owner
  rw [h]
  rfl

theorem add_accepted {i : Issued} (h : s.ledger.Sound)
    (hr : (Operation.add c courier owner form given draw s).result = .ok i) :
    Accepted c s (.add courier owner form given draw) (.issued i)
      (Operation.add c courier owner form given draw s).store.ledger := by
  obtain ⟨t, ht, hok⟩ := add_ok hr
  rw [add_succeeded courier ht hok] at hr ⊢
  obtain rfl := Except.ok.inj hr
  obtain ⟨steps, hv, hw, -⟩ := Store.attempt_ok hok
  have he := effects_of_worked hw
  rcases decideAdd_ok hv with ⟨a, ha, hwait, rfl⟩ | ⟨hn, rfl⟩
  · obtain ⟨hmem, -⟩ := Ledger.registered?_some ha
    rw [Ledger.effects_refresh h hmem hwait] at he
    rw [addAttempt, ← Except.ok.inj he, addedId, ha]
    exact .refresh ha hwait ht
  · obtain ⟨hfree, hl⟩ := Ledger.effects_insert_ok he
    rw [addAttempt, hl, addedId, hn]
    exact .insert hn hfree ht

theorem list_accepted {owner : Uuid} {rows : List Account} (hr : (Operation.list c owner s).result = .ok rows) :
    Accepted c s (.list owner) (.listed rows) (Operation.list c owner s).store.ledger := by
  cases hm : c.mishaps .read with
  | some f =>
    rw [list_failed hm] at hr
    cases hr
  | none =>
    rw [list_read hm] at hr ⊢
    obtain rfl := Except.ok.inj hr
    exact .list

/-- A call leaves the store that its attempt leaves, if it comes to one. -/
theorem store_perform (c : Circumstances) (s : Store) (a : Action) : (a.perform c s).store =
    match a.judge? c s with
    | some judge => (s.attempt c.mishaps c.settings.databaseTimeout judge).store
    | none => s := by
  cases a with
  | add courier owner form given draw =>
    simp only [Action.perform, Action.judge?, Outcome.map]
    cases ht : Code.deadline? (given.getD c.settings.codeMinutes) c.now with
    | none =>
      simp only [Operation.add, ht]
      rfl
    | some t =>
      rw [add_store ht]
      rfl
  | verify owner id submitted =>
    rw [Action.perform, Outcome.map, Operation.verify, ofAttempt_store]
    rfl
  | promote owner id =>
    rw [Action.perform, Outcome.map, Operation.promote, ofAttempt_store]
    rfl
  | delete owner id =>
    rw [Action.perform, Outcome.map, Operation.delete, ofAttempt_store]
    rfl
  | list owner => exact list_store owner

/-- A call that succeeds does one of the things that `Accepted` lists. -/
theorem perform_accepted {a : Action} (h : s.ledger.Sound) (hr : (a.perform c s).result = .ok x) :
    Accepted c s a x (a.perform c s).store.ledger := by
  cases a with
  | add courier owner form given draw =>
    obtain ⟨i, hi, rfl⟩ := map_eq_ok.mp hr
    exact add_accepted h hi
  | verify owner id submitted =>
    obtain ⟨v, hv, rfl⟩ := map_eq_ok.mp hr
    exact verify_accepted h hv
  | promote owner id =>
    obtain ⟨p, hp, rfl⟩ := map_eq_ok.mp hr
    exact promote_accepted h hp
  | delete owner id =>
    obtain ⟨⟨⟩, hi, rfl⟩ := map_eq_ok.mp hr
    exact delete_accepted hi
  | list owner =>
    obtain ⟨rows, hrows, rfl⟩ := map_eq_ok.mp hr
    exact list_accepted hrows

theorem map_eq_error {α β : Type} {g : α → β} {e : Except Failure α} {f : Failure} :
    e.map g = .error f ↔ e = .error f := by
  cases e <;> simp [Except.map]

theorem sound_accepted {a : Action} (h : s.ledger.Sound) (ha : Accepted c s a x l) : l.Sound := by
  cases ha with
  | @refresh _ _ form _ draw a t found waiting _ =>
    obtain ⟨hm, -⟩ := Ledger.registered?_some found
    exact Ledger.sound_effects h (Ledger.effects_refresh h hm waiting form (Code.ofDraw draw) t c.now)
  | insert absent free _ => exact Ledger.sound_effects h (Ledger.effects_insert absent free)
  | verify found waiting _ _ _ =>
    obtain ⟨hm, -⟩ := Ledger.owned?_some found
    exact Ledger.sound_effects h (Ledger.effects_verify h hm waiting)
  | promote found proved =>
    obtain ⟨hm, rfl, -⟩ := Ledger.owned?_some found
    exact Ledger.sound_effects h (Ledger.effects_promote h hm proved)
  | delete _ _ => exact Ledger.sound_without h
  | list => exact h

/-! ### Calls that meet no failing database call -/

theorem ofAttempt_calm {α : Type} {limit : Binary64} {judge : Ledger → Decision}
    {line : LogRecord} {r : Ledger → α} {steps : List Step}
    (hv : (judge s.ledger).verdict = .ok steps)
    (he : steps.foldlM Step.effect s.ledger = .ok l) :
    (Outcome.ofAttempt (s.attempt calm limit judge) line r).result = .ok (r l) := by
  obtain ⟨hok, hl⟩ : (s.attempt calm limit judge).result = .ok () ∧
    (s.attempt calm limit judge).store.ledger = l := Store.attempt_calm hv he
  rw [ofAttempt_result, hok, hl]
  rfl

theorem decideVerify_take {owner id : Uuid} {submitted : String} {now : Instant} {a : Account}
    (found : l.owned? owner id = some a) (waiting : a.isVerified = false)
    (code : a.code = some submitted) (written : submitted ≠ "")
    (due : Code.isPast a.deadline now = false) :
    (decideVerify owner id submitted now l).verdict =
      .ok [.flush [.update (verified a now)], .claim owner id now] := by
  simp only [decideVerify, onOwned, found, waiting, code, changes_verified waiting]
  simp [due, Decision.take]

theorem verify_calm (h : s.ledger.Sound) (hc : c.mishaps = calm) {owner id : Uuid}
    {submitted : String} {a : Account} (found : s.ledger.owned? owner id = some a)
    (waiting : a.isVerified = false) (code : a.code = some submitted) (written : submitted ≠ "")
    (due : Code.isPast a.deadline c.now = false) :
    (Operation.verify c owner id submitted s).result =
      .ok { id, isVerified := true, isPrimary := decide (s.ledger.verifiedCount owner = 0) } := by
  have hv := decideVerify_take found waiting code written due
  obtain ⟨hm, rfl, rfl⟩ := Ledger.owned?_some found
  rw [Operation.verify, hc, ofAttempt_calm hv (Ledger.effects_verify h hm waiting),
    isVerified, isPrimary, account?_admitted hm]
  rfl

end Outcomes

end PayoutRegistry
