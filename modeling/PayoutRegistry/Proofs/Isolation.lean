import PayoutRegistry.Proofs.Rollback

/-!
Users do not learn of each other and do not touch each other. What a call comes to depends on the rows of
its user alone, in pairs of runs; and the rows of all others stay as they are.
-/
namespace PayoutRegistry

/-- Two ledgers in which a user finds the same. -/
structure Alike (owner : Uuid) (l₁ l₂ : Ledger) : Prop where
  user : l₁.user? owner = l₂.user? owner
  rows : l₁.ownedBy owner = l₂.ownedBy owner

namespace Alike

variable {owner id : Uuid} {l₁ l₂ : Ledger} {a b : Account}

theorem owned? (h : Alike owner l₁ l₂) (id : Uuid) : l₁.owned? owner id = l₂.owned? owner id := by
  simp only [Ledger.owned?, h.rows]

theorem registered? (h : Alike owner l₁ l₂) (number bankCode : String) :
    l₁.registered? owner number bankCode = l₂.registered? owner number bankCode := by
  simp only [Ledger.registered?, h.rows]

theorem verifiedCount (h : Alike owner l₁ l₂) : l₁.verifiedCount owner = l₂.verifiedCount owner := by
  simp only [Ledger.verifiedCount, h.rows]

theorem listing (h : Alike owner l₁ l₂) : l₁.listing owner = l₂.listing owner := by
  simp only [Ledger.listing, h.rows]

theorem overwrite (h : Alike owner l₁ l₂) (h₁ : l₁.Sound) (h₂ : l₂.Sound)
    (hb₁ : b ∈ l₁.accounts) (hb₂ : b ∈ l₂.accounts) (hr : a.Revises b) :
    Alike owner (l₁.overwrite a) (l₂.overwrite a) := by
  refine ⟨h.user, ?_⟩
  rw [Ledger.ownedBy_overwrite h₁ hb₁ hr, Ledger.ownedBy_overwrite h₂ hb₂ hr, h.rows]

theorem promoted (h : Alike owner l₁ l₂) (a : Account) (now : Instant) :
    Alike owner (l₁.promoted a now) (l₂.promoted a now) := by
  have hg : ∀ b : Account,
      { b with isPrimary := decide (b.id = a.id), updatedAt := now }.owner = b.owner :=
    fun _ => rfl
  refine ⟨h.user, ?_⟩
  rw [Ledger.promoted, Ledger.promoted, Ledger.ownedBy_rewritten hg, Ledger.ownedBy_rewritten hg,
    h.rows]

theorem extended (h : Alike owner l₁ l₂) (a : Account) :
    Alike owner (l₁.extended a) (l₂.extended a) := by
  refine ⟨h.user, ?_⟩
  rw [Ledger.ownedBy_extended, Ledger.ownedBy_extended, h.rows]

theorem without (h : Alike owner l₁ l₂) (id : Uuid) :
    Alike owner (l₁.without id) (l₂.without id) := by
  refine ⟨h.user, ?_⟩
  rw [Ledger.ownedBy_without, Ledger.ownedBy_without, h.rows]

/-- Attempts that decide on the same steps come to the same if their steps do. -/
theorem attempt {s₁ s₂ : Store} {judge₁ judge₂ : Ledger → Decision}
    (h : Alike owner s₁.ledger s₂.ledger) (m : Mishaps) (limit : Binary64)
    (hd : judge₁ s₁.ledger = judge₂ s₂.ledger)
    (hw : ∀ steps, (judge₁ s₁.ledger).verdict = .ok steps →
      Matched (Alike owner) (s₁.ledger.worked m steps) (s₂.ledger.worked m steps)) :
    (s₁.attempt m limit judge₁).result = (s₂.attempt m limit judge₂).result ∧
      (s₁.attempt m limit judge₁).log = (s₂.attempt m limit judge₂).log ∧
      Alike owner (s₁.attempt m limit judge₁).store.ledger
        (s₂.attempt m limit judge₂).store.ledger := by
  refine Matched.attempt (Matched.attempted ?_ ?_) (by rw [hd]) h
  · intro r hr
    rw [← hd]
    exact hr
  · intro steps hv
    exact ⟨steps, hd ▸ hv, hw steps hv⟩

end Alike

/-- Two outcomes that a user cannot tell apart. -/
structure Indistinct {α : Type} (owner : Uuid) (o₁ o₂ : Outcome α) : Prop where
  result : o₁.result = o₂.result
  log : o₁.log = o₂.log
  handovers : o₁.handovers = o₂.handovers
  posted : o₁.posted = o₂.posted
  rows : Alike owner o₁.store.ledger o₂.store.ledger

theorem Indistinct.map {α β : Type} {owner : Uuid} {o₁ o₂ : Outcome α} (h : Indistinct owner o₁ o₂)
    (f : α → β) : Indistinct owner (o₁.map f) (o₂.map f) where
  result := congrArg (Except.map f) h.result
  log := h.log
  handovers := h.handovers
  posted := h.posted
  rows := h.rows

/-- The line and the answer that tell of a success have to be the same only if there is a success. -/
theorem indistinct_ofAttempt {α : Type} {owner : Uuid} {a₁ a₂ : Attempt Failure} {line₁ line₂ : LogRecord}
    {r₁ r₂ : Ledger → α} (hr : a₁.result = a₂.result) (hlog : a₁.log = a₂.log)
    (hl : Alike owner a₁.store.ledger a₂.store.ledger)
    (hok : a₁.result = .ok () →
      line₁ = line₂ ∧ r₁ a₁.store.ledger = r₂ a₂.store.ledger) :
    Indistinct owner (Outcome.ofAttempt a₁ line₁ r₁) (Outcome.ofAttempt a₂ line₂ r₂) := by
  cases h : a₁.result with
  | error f =>
    have h₂ := hr.symm.trans h
    simp only [Outcome.ofAttempt, Outcome.ofFailedAttempt, h, h₂]
    exact ⟨rfl, hlog, rfl, rfl, hl⟩
  | ok =>
    have h₂ := hr.symm.trans h
    obtain ⟨hline, hres⟩ := hok h
    simp only [Outcome.ofAttempt, h, h₂]
    exact ⟨congrArg Except.ok hres, by rw [hlog, hline], rfl, rfl, hl⟩

/-! ### Pairs of runs -/

namespace Alike

open Operation

variable {c : Circumstances} {s₁ s₂ : Store} {owner id : Uuid}

/-- Whether the account becomes primary depends on the other accounts of its user alone. -/
theorem verifyAttempt (h : Alike owner s₁.ledger s₂.ledger) (h₁ : s₁.ledger.Sound)
    (h₂ : s₂.ledger.Sound) (c : Circumstances) (limit : Binary64) (id : Uuid) (submitted : String) :
    (s₁.attempt c.mishaps limit (decideVerify owner id submitted c.now)).result =
        (s₂.attempt c.mishaps limit (decideVerify owner id submitted c.now)).result ∧
      (s₁.attempt c.mishaps limit (decideVerify owner id submitted c.now)).log =
        (s₂.attempt c.mishaps limit (decideVerify owner id submitted c.now)).log ∧
      Alike owner (s₁.attempt c.mishaps limit (decideVerify owner id submitted c.now)).store.ledger
        (s₂.attempt c.mishaps limit (decideVerify owner id submitted c.now)).store.ledger := by
  have hd : decideVerify owner id submitted c.now s₁.ledger =
      decideVerify owner id submitted c.now s₂.ledger := by
    simp only [decideVerify, onOwned, h.owned?]
  refine h.attempt c.mishaps limit hd ?_
  intro steps hv
  obtain ⟨a, ha₁, hw, -, -, -, rfl⟩ := decideVerify_ok hv
  have ha₂ := h.owned? id ▸ ha₁
  obtain ⟨hm₁, rfl, rfl⟩ := Ledger.owned?_some ha₁
  obtain ⟨hm₂, -⟩ := Ledger.owned?_some ha₂
  have hadm : admitted s₁.ledger a c.now = admitted s₂.ledger a c.now := by
    simp only [admitted, h.verifiedCount]
  refine Matched.worked ?_
    (Ledger.effects_verify h₁ hm₁ hw) (Ledger.effects_verify h₂ hm₂ hw) ?_
  · rw [← hadm]
    exact h.overwrite h₁ h₂ hm₁ hm₂ ⟨rfl, rfl, rfl, rfl⟩
  · rw [Ledger.made_verify h₁ hm₁ hw, Ledger.made_verify h₂ hm₂ hw, h.verifiedCount]

theorem verify (h : Alike owner s₁.ledger s₂.ledger) (h₁ : s₁.ledger.Sound) (h₂ : s₂.ledger.Sound)
    (submitted : String) : Indistinct owner (Operation.verify c owner id submitted s₁)
      (Operation.verify c owner id submitted s₂) := by
  obtain ⟨hr, hlog, hl⟩ := h.verifyAttempt h₁ h₂ c c.settings.databaseTimeout id submitted
  rw [Operation.verify, Operation.verify]
  refine indistinct_ofAttempt hr hlog hl fun hok => ?_
  obtain ⟨-, hv₁, hp₁⟩ := verified_attempt h₁ hok
  obtain ⟨-, hv₂, hp₂⟩ := verified_attempt h₂ (hr ▸ hok)
  rw [hv₁, hv₂, hp₁, hp₂, h.verifiedCount]
  exact ⟨rfl, rfl⟩

theorem promote (h : Alike owner s₁.ledger s₂.ledger) (h₁ : s₁.ledger.Sound)
    (h₂ : s₂.ledger.Sound) : Indistinct owner (Operation.promote c owner id s₁)
      (Operation.promote c owner id s₂) := by
  have hd : decidePromote owner id c.now s₁.ledger = decidePromote owner id c.now s₂.ledger := by
    simp only [decidePromote, onOwned, h.owned?]
  have hw : ∀ steps, (decidePromote owner id c.now s₁.ledger).verdict = .ok steps →
      Matched (Alike owner) (s₁.ledger.worked c.mishaps steps)
        (s₂.ledger.worked c.mishaps steps) := by
    intro steps hv
    obtain ⟨a, ha₁, hw, rfl⟩ := decidePromote_ok hv
    have ha₂ := h.owned? id ▸ ha₁
    obtain ⟨hm₁, rfl, -⟩ := Ledger.owned?_some ha₁
    obtain ⟨hm₂, -⟩ := Ledger.owned?_some ha₂
    exact Matched.worked (h.promoted a c.now) (Ledger.effects_promote h₁ hm₁ hw)
      (Ledger.effects_promote h₂ hm₂ hw) rfl
  obtain ⟨hr, hlog, hl⟩ := h.attempt c.mishaps c.settings.databaseTimeout hd hw
  rw [Operation.promote, Operation.promote]
  refine indistinct_ofAttempt hr hlog hl fun hok => ⟨rfl, ?_⟩
  rw [(promoted_attempt h₁ hok).2, (promoted_attempt h₂ (hr ▸ hok)).2]

theorem delete (h : Alike owner s₁.ledger s₂.ledger) :
    Indistinct owner (Operation.delete c owner id s₁) (Operation.delete c owner id s₂) := by
  have hd : decideDelete owner id s₁.ledger = decideDelete owner id s₂.ledger := by
    simp only [decideDelete, onOwned, h.owned?]
  have hw : ∀ steps, (decideDelete owner id s₁.ledger).verdict = .ok steps →
      Matched (Alike owner) (s₁.ledger.worked c.mishaps steps)
        (s₂.ledger.worked c.mishaps steps) := by
    intro steps hv
    obtain ⟨a, -, -, rfl⟩ := decideDelete_ok hv
    exact Matched.worked (h.without id) rfl rfl rfl
  obtain ⟨hr, hlog, hl⟩ := h.attempt c.mishaps c.settings.databaseTimeout hd hw
  rw [Operation.delete, Operation.delete]
  exact indistinct_ofAttempt hr hlog hl fun _ => ⟨rfl, rfl⟩

/-- The rows that adding may collide with are rows of the user, and the new identifier is free. -/
theorem addAttempt {addr : Owner} (h : Alike addr.id s₁.ledger s₂.ledger) (c : Circumstances)
    (form : AccountForm) (draw : Nat) (t : Instant) (h₁ : s₁.ledger.Sound) (h₂ : s₂.ledger.Sound)
    (hid : s₁.nextId = s₂.nextId) (hf₁ : s₁.ledger.Free s₁.nextId)
    (hf₂ : s₂.ledger.Free s₂.nextId) :
    (addAttempt c addr form draw t s₁).result = (addAttempt c addr form draw t s₂).result ∧
      (addAttempt c addr form draw t s₁).log = (addAttempt c addr form draw t s₂).log ∧
      Alike addr.id (addAttempt c addr form draw t s₁).store.ledger
        (addAttempt c addr form draw t s₂).store.ledger := by
  have hd : decideAdd s₁.nextId addr.id form (Code.ofDraw draw) t c.now s₁.ledger =
      decideAdd s₂.nextId addr.id form (Code.ofDraw draw) t c.now s₂.ledger := by
    simp only [decideAdd, h.registered?, hid]
  refine h.attempt c.mishaps c.settings.databaseTimeout hd ?_
  intro steps hv
  rcases decideAdd_ok hv with ⟨a, ha₁, hw, rfl⟩ | ⟨hn₁, rfl⟩
  · have ha₂ := h.registered? form.number form.bankCode ▸ ha₁
    obtain ⟨hm₁, -⟩ := Ledger.registered?_some ha₁
    obtain ⟨hm₂, -⟩ := Ledger.registered?_some ha₂
    have hr : (refreshed a form (Code.ofDraw draw) t c.now).Revises a := ⟨rfl, rfl, rfl, rfl⟩
    exact Matched.worked (h.overwrite h₁ h₂ hm₁ hm₂ hr)
      (Ledger.effects_refresh h₁ hm₁ hw form (Code.ofDraw draw) t c.now)
      (Ledger.effects_refresh h₂ hm₂ hw form (Code.ofDraw draw) t c.now) rfl
  · have hn₂ := h.registered? form.number form.bankCode ▸ hn₁
    refine Matched.worked (h.extended _) (Ledger.effects_insert hn₁ hf₁) ?_ rfl
    rw [hid]
    exact Ledger.effects_insert hn₂ hf₂

theorem add {courier : Courier} {addr : Owner} {form : AccountForm} {given : Option Int} {draw : Nat}
    (h : Alike addr.id s₁.ledger s₂.ledger) (h₁ : s₁.ledger.Sound) (h₂ : s₂.ledger.Sound)
    (hid : s₁.nextId = s₂.nextId) (hf₁ : s₁.ledger.Free s₁.nextId)
    (hf₂ : s₂.ledger.Free s₂.nextId) :
    Indistinct addr.id (Operation.add c courier addr form given draw s₁)
      (Operation.add c courier addr form given draw s₂) := by
  cases ht : Code.deadline? (given.getD c.settings.codeMinutes) c.now with
  | none =>
    simp only [Operation.add, ht]
    exact ⟨rfl, rfl, rfl, rfl, h⟩
  | some t =>
    obtain ⟨hr, hlog, hl⟩ := h.addAttempt c form draw t h₁ h₂ hid hf₁ hf₂
    cases hres : (PayoutRegistry.addAttempt c addr form draw t s₁).result with
    | error f =>
      rw [add_failed ht hres, add_failed ht (hr ▸ hres), Outcome.ofFailedAttempt, Outcome.ofFailedAttempt]
      exact ⟨rfl, hlog, rfl, rfl, hl⟩
    | ok =>
      have hadded : addedId addr form s₁ = addedId addr form s₂ := by
        simp only [addedId, h.registered?, hid]
      rw [add_succeeded courier ht hres, add_succeeded courier ht (hr ▸ hres), hadded, hlog,
        h.registered?]
      exact ⟨rfl, rfl, rfl, rfl, hl⟩

end Alike

/-! ### Single runs -/

/-- What one user does leaves the users, and the rows of all other users, as they are. -/
structure Untouched (owner : Uuid) (l l' : Ledger) : Prop where
  users : l'.users = l.users
  rows : ∀ other, other ≠ owner → l'.ownedBy other = l.ownedBy other

variable {c : Circumstances} {s : Store} {a : Action} {x : Answer} {l : Ledger}

theorem untouched_accepted (hs : s.ledger.Sound) (h : Accepted c s a x l) :
    Untouched a.owner s.ledger l := by
  cases h with
  | @refresh _ addr form _ draw b t found _ _ =>
    obtain ⟨hm, ho, -⟩ := Ledger.registered?_some found
    have hr : (Operation.refreshed b form (Code.ofDraw draw) t c.now).Revises b := ⟨rfl, rfl, rfl, rfl⟩
    refine ⟨rfl, fun other hne => ?_⟩
    exact Ledger.ownedBy_overwrite_other hs hm hr (ho ▸ hne)
  | @insert _ addr form _ draw t _ _ _ =>
    refine ⟨rfl, fun other hne => ?_⟩
    have hown : (Operation.newAccount s.nextId addr.id form (Code.ofDraw draw) t c.now).owner ≠ other :=
      Ne.symm hne
    rw [Ledger.ownedBy_extended, if_neg hown, List.append_nil]
  | @verify _ _ _ b found _ _ _ _ =>
    obtain ⟨hm, rfl, -⟩ := Ledger.owned?_some found
    have hr : (admitted s.ledger b c.now).Revises b := ⟨rfl, rfl, rfl, rfl⟩
    exact ⟨rfl, fun other hne => Ledger.ownedBy_overwrite_other hs hm hr hne⟩
  | promote found _ =>
    obtain ⟨-, rfl, -⟩ := Ledger.owned?_some found
    exact ⟨rfl, fun other hne => Ledger.ownedBy_rewritten_other (fun _ => rfl) hne⟩
  | delete found _ =>
    obtain ⟨hm, rfl, rfl⟩ := Ledger.owned?_some found
    exact ⟨rfl, fun other hne => Ledger.ownedBy_without_other hs hm hne⟩
  | list => exact ⟨rfl, fun _ _ => rfl⟩

theorem untouched_perform (hs : s.ledger.Sound) (c : Circumstances) (a : Action) :
    Untouched a.owner s.ledger (a.perform c s).store.ledger := by
  cases hr : (a.perform c s).result with
  | ok x => exact untouched_accepted hs (perform_accepted hs hr)
  | error f =>
    rw [(undone_perform hr).ledger]
    exact ⟨rfl, fun _ _ => rfl⟩

theorem indistinct_perform {s₁ s₂ : Store} (h : Alike a.owner s₁.ledger s₂.ledger)
    (h₁ : s₁.ledger.Sound) (h₂ : s₂.ledger.Sound) (hid : s₁.nextId = s₂.nextId)
    (hf₁ : s₁.ledger.Free s₁.nextId) (hf₂ : s₂.ledger.Free s₂.nextId) :
    Indistinct a.owner (a.perform c s₁) (a.perform c s₂) := by
  cases a with
  | add courier addr form given draw => exact (h.add h₁ h₂ hid hf₁ hf₂).map _
  | verify owner id submitted => exact (h.verify h₁ h₂ submitted).map _
  | promote owner id => exact (h.promote h₁ h₂).map _
  | delete owner id => exact h.delete.map _
  | list owner =>
    simp only [Action.perform, Operation.list]
    cases c.mishaps .read with
    | some f => exact ⟨rfl, rfl, rfl, rfl, h⟩
    | none => exact ⟨congrArg (Except.ok ∘ Answer.listed) h.listing, rfl, rfl, rfl, h⟩

/-- A user whose own rows are the same in two stores gets the same from both, whatever other users have
there, and changes nothing of theirs. -/
theorem isolated (c : Circumstances) (a : Action) (s₁ s₂ : Store) (h₁ : s₁.ledger.Sound)
    (h₂ : s₂.ledger.Sound) (h : Alike a.owner s₁.ledger s₂.ledger) (hid : s₁.nextId = s₂.nextId)
    (hf₁ : s₁.ledger.Free s₁.nextId) (hf₂ : s₂.ledger.Free s₂.nextId) :
    Indistinct a.owner (a.perform c s₁) (a.perform c s₂) ∧
      Untouched a.owner s₁.ledger (a.perform c s₁).store.ledger ∧
      Untouched a.owner s₂.ledger (a.perform c s₂).store.ledger :=
  ⟨indistinct_perform h h₁ h₂ hid hf₁ hf₂, untouched_perform h₁ c a, untouched_perform h₂ c a⟩

/-- The primary account of a user. -/
def strangersRow : Account :=
  { id := .ofSerial 1, owner := .ofSerial 2, number := "0123456789", holder := "John Doe",
    bankName := "Test Bank", bankCode := "011", isVerified := true, isPrimary := true, code := none,
    deadline := none, createdAt := default, updatedAt := default }

/-- To another user, the account might as well not be there. -/
theorem strangersRow_hidden :
    let s₁ : Store := { ledger := { users := [], accounts := [strangersRow] }, serial := 3 }
    let s₂ : Store := { ledger := .empty, serial := 3 }
    let a : Action := .delete (.ofSerial 3) strangersRow.id
    (a.perform default s₁).result = .error (.refusal (.accountNotFound strangersRow.id)) ∧
      Indistinct a.owner (a.perform default s₁) (a.perform default s₂) ∧
      Untouched a.owner s₁.ledger (a.perform default s₁).store.ledger ∧
      Untouched a.owner s₂.ledger (a.perform default s₂).store.ledger := by
  refine ⟨rfl, isolated _ _ _ _ ⟨List.pairwise_singleton _ _, ?_⟩ Ledger.sound_empty ⟨rfl, rfl⟩ rfl
    ?_ ?_⟩
  · intro a ha _
    rw [List.mem_singleton.mp ha]
    rfl
  · intro a ha
    rw [List.mem_singleton.mp ha]
    decide
  · intro a ha
    cases ha

end PayoutRegistry
