import PayoutRegistry.Proofs.Calls

/-! Calls that fail. They leave the ledger as it was, hand nothing over and do not log a success. -/
namespace PayoutRegistry

/-- The messages by which operations tell of their success. -/
def LogRecord.successes : List String :=
  ["Verification code issued", "Bank account verified", "Primary bank account changed",
    "Bank account deleted"]

/-- The line tells that an operation succeeded. -/
def LogRecord.TellsSuccess (r : LogRecord) : Prop :=
  r.logger = Operation.logger ∧ r.message ∈ LogRecord.successes

instance (r : LogRecord) : Decidable r.TellsSuccess := inferInstanceAs (Decidable (_ ∧ _))

/-- No line of the log tells of a success. -/
def Silent (log : List LogRecord) : Prop := ∀ r ∈ log, ¬r.TellsSuccess

/-- Nothing is left of an operation that began in a store. -/
structure Undone {α : Type} (s : Store) (o : Outcome α) : Prop where
  ledger : o.store.ledger = s.ledger
  handovers : o.handovers = []
  posted : o.posted = []
  silent : Silent o.log

section Logs

variable {ε : Type} [Throwable ε] {log log' : List LogRecord} {s : Store} {m : Call → Option ε}
  {limit : Binary64} {judge : Ledger → Decision}

theorem silent_nil : Silent [] := nofun

theorem silent_append (h : Silent log) (h' : Silent log') : Silent (log ++ log') := by
  intro r hr
  rcases List.mem_append.mp hr with hr | hr
  · exact h r hr
  · exact h' r hr

theorem silent_of_logger (h : ∀ r ∈ log, r.logger ≠ Operation.logger) : Silent log := by
  intro r hr hs
  exact h r hr hs.1

/-- The guard speaks for the database, not for an operation. -/
theorem silent_guarded {α : Type} (work : Except ε α) : Silent (guarded limit work).log := by
  refine silent_of_logger ?_
  intro r hr
  cases work with
  | ok => cases hr
  | error e =>
    rcases guarded_cases (α := α) limit e with ⟨-, hlog⟩ | ⟨-, message, -, hlog⟩
    · rw [hlog] at hr
      cases hr
    · rw [hlog] at hr
      rw [List.mem_singleton.mp hr]
      change Guard.logger ≠ Operation.logger
      decide

theorem silent_body (h : Silent (judge s.ledger).log) : Silent (s.body m judge).1 := by
  simp only [Store.body]
  split
  · exact silent_nil
  · exact h
  · exact h

theorem silent_attempt (h : Silent (judge s.ledger).log) :
    Silent (s.attempt m limit judge).log :=
  silent_append (silent_body h) (silent_guarded _)

theorem silent_onOwned {owner id : Uuid} {judge : Account → Decision} {l : Ledger}
    (h : ∀ a, Silent (judge a).log) : Silent (Operation.onOwned owner id judge l).log := by
  simp only [Operation.onOwned]
  split
  · exact silent_nil
  · exact h _

theorem silent_note {message : String} (h : message ∉ LogRecord.successes) (owner id : Uuid)
    (more : Json.Fields) : Silent [Operation.note message owner id more] := by
  intro r hr hs
  rw [List.mem_singleton.mp hr] at hs
  exact h hs.2

theorem silent_decideAdd {id owner : Uuid} {form : AccountForm} {code : String} {t now : Instant}
    {l : Ledger} : Silent (Operation.decideAdd id owner form code t now l).log := by
  rw [Operation.decideAdd_log]
  exact silent_nil

theorem silent_decideVerify {owner id : Uuid} {submitted : String} {now : Instant} {l : Ledger} :
    Silent (Operation.decideVerify owner id submitted now l).log := by
  refine silent_onOwned ?_
  intro a
  split
  · exact silent_nil
  · split
    · exact silent_nil
    · exact silent_nil
    · split
      · exact silent_note (by decide) owner id _
      · split
        · exact silent_note (by decide) owner id _
        · exact silent_nil

theorem silent_decidePromote {owner id : Uuid} {now : Instant} {l : Ledger} :
    Silent (Operation.decidePromote owner id now l).log := by
  refine silent_onOwned ?_
  intro a
  split <;> exact silent_nil

theorem silent_decideDelete {owner id : Uuid} {l : Ledger} :
    Silent (Operation.decideDelete owner id l).log := by
  refine silent_onOwned ?_
  intro a
  split <;> exact silent_nil

end Logs

section Attempts

variable {ε : Type} [Throwable ε] {s : Store} {m : Call → Option ε} {limit : Binary64} {judge : Ledger → Decision}

end Attempts

section Failures

variable {c c' : Circumstances} {s s' : Store} {a : Action} {x : Answer} {l : Ledger} {f : Failure}

theorem undone_ofAttempt {α β : Type} {m : Mishaps} {limit : Binary64} {judge : Ledger → Decision}
    {line : LogRecord} {r : Ledger → α} {g : α → β} (hj : Silent (judge s.ledger).log)
    (h : ((Outcome.ofAttempt (s.attempt m limit judge) line r).map g).result = .error f) :
    Undone s ((Outcome.ofAttempt (s.attempt m limit judge) line r).map g) := by
  have h := map_eq_error.mp h
  rw [ofAttempt_result] at h
  have hres := map_eq_error.mp h
  simp only [Outcome.ofAttempt, hres]
  exact ⟨Store.attempt_error hres, rfl, rfl, silent_attempt hj⟩

/-- A call that fails leaves nothing behind, whichever of its calls to the database failed. -/
theorem undone_perform (h : (a.perform c s).result = .error f) : Undone s (a.perform c s) := by
  cases a with
  | add courier owner form given draw =>
    rcases add_error (map_eq_error.mp h) with ⟨ht, -⟩ | ⟨t, ht, hres⟩
    · simp only [Action.perform, Outcome.map, Operation.add, ht]
      exact ⟨rfl, rfl, rfl, silent_nil⟩
    · simp only [Action.perform, Outcome.map, add_failed ht hres]
      exact ⟨Store.attempt_error hres, rfl, rfl, silent_attempt silent_decideAdd⟩
  | verify owner id submitted => exact undone_ofAttempt silent_decideVerify h
  | promote owner id => exact undone_ofAttempt silent_decidePromote h
  | delete owner id => exact undone_ofAttempt silent_decideDelete h
  | list owner =>
    have h := map_eq_error.mp h
    cases hm : c.mishaps .read with
    | some f =>
      rw [Action.perform, list_failed hm]
      exact ⟨rfl, rfl, rfl, silent_nil⟩
    | none =>
      rw [list_read hm] at h
      cases h

theorem sound_perform (h : s.ledger.Sound) : (a.perform c s).store.ledger.Sound := by
  cases hr : (a.perform c s).result with
  | ok x => exact sound_accepted h (perform_accepted h hr)
  | error f =>
    rw [(undone_perform hr).ledger]
    exact h

/-! ### Logs of success -/

theorem tellsSuccess_note {message : String} {owner id : Uuid} {more : Json.Fields}
    (h : message ∈ LogRecord.successes) : (Operation.note message owner id more).TellsSuccess :=
  ⟨rfl, h⟩

end Failures

end PayoutRegistry
