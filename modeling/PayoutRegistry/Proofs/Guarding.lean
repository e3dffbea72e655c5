import PayoutRegistry.Guard

/-!
What the guard around a unit of work makes of the ways in which the work can go. Work that ends well is left alone.
Work that fails is rolled back once, and its failure leaves the guard as it is, unless another try may get past it.
Whatever interrupts work from outside goes past the guard.
-/
namespace PayoutRegistry

/-- The code by which a fault of the database is known: the first one, or the second where the first is absent or
empty. -/
inductive DriverError.Shows (e : DriverError) : String → Prop where
  | state {code : String} (given : e.sqlState = some code) (nonempty : code ≠ "") : e.Shows code
  | fallback {code : String} (missing : e.sqlState = none ∨ e.sqlState = some "")
      (given : e.pgCode = some code) : e.Shows code

/-- Failures that another try may get past: work that took too long, a fault in the operation of the database or in
the integrity of its rows, and any other fault of it that is known by a code of contention. -/
inductive Failure.Passing : Failure → Prop where
  | timeout (message : String) : Passing (.timeout message)
  | operational (e : DriverError) : Passing (.operational e)
  | integrity (e : DriverError) : Passing (.integrity e)
  | contention (e : DriverError) (code : String) (shown : e.Shows code)
      (known : code ∈ ["40001", "40P01", "55P03", "57014"]) : Passing (.driver e)

/-- What those who are asked to try again are told. -/
def Failure.advice : Failure → String
  | .timeout _ => "The database did not respond in time, please retry"
  | _ => "The request could not be completed, please retry"

theorem DriverError.shows_iff {e : DriverError} {code : String} :
    e.Shows code ↔ (e.sqlState.filter (· ≠ "")).or e.pgCode = some code := by
  constructor
  · intro h
    cases h with
    | state given nonempty => simp [given, nonempty]
    | fallback missing given =>
      rcases missing with missing | missing
      · rw [missing, given]
        rfl
      · rw [missing, given]
        rfl
  · intro h
    cases hstate : e.sqlState with
    | none =>
      rw [hstate] at h
      exact .fallback (.inl hstate) h
    | some state =>
      by_cases hempty : state = ""
      · subst hempty
        rw [hstate] at h
        exact .fallback (.inr hstate) h
      · have hfilter : (some state).filter (· ≠ "") = some state := Option.filter_some_pos (by simpa)
        rw [hstate, hfilter] at h
        obtain rfl := Option.some.inj h
        exact .state hstate hempty

namespace Guard

variable {limit : Binary64} {f : Failure}

theorem isContention_iff {e : DriverError} :
    isContention e = true ↔ ∃ code, e.Shows code ∧ code ∈ contentionCodes := by
  simp only [isContention, DriverError.shows_iff]
  cases (e.sqlState.filter (· ≠ "")).or e.pgCode with
  | none => simp
  | some code => simp

/-- A failure that another try may get past meets a handler that turns it before it meets one that does not. -/
theorem measures_passing (h : f.Passing) :
    ∃ message, measures limit (.failure f) = [.rollback, .warn message, .turn f.advice] := by
  cases h with
  | timeout => exact ⟨_, rfl⟩
  | operational => exact ⟨_, rfl⟩
  | integrity => exact ⟨_, rfl⟩
  | contention e code shown known =>
    have hcontention : isContention e = true := isContention_iff.mpr ⟨code, shown, known⟩
    exact ⟨_, congrArg (List.cons Measure.rollback) (if_pos hcontention)⟩

theorem measures_of_not_passing (h : ¬ f.Passing) : measures limit (.failure f) = [.rollback] := by
  cases f with
  | timeout m => exact absurd (.timeout m) h
  | operational e => exact absurd (.operational e) h
  | integrity e => exact absurd (.integrity e) h
  | driver e =>
    have hcontention : ¬ isContention e = true := by
      intro hcontention
      obtain ⟨code, shown, known⟩ := isContention_iff.mp hcontention
      exact h (.contention e code shown known)
    exact congrArg (List.cons Measure.rollback) (if_neg hcontention)
  | _ => rfl

/-- No handler takes an interruption. -/
theorem measures_interruption (i : Interruption) : measures limit (.interruption i) = [] := rfl

end Guard

section Work

variable {ε α : Type} [Throwable ε] {limit : Binary64} {e : ε} {f : Failure}

theorem guarded_passing (he : Throwable.thrown e = .failure f) (h : f.Passing) :
    ∃ message, guarded limit (.error e : Except ε α) =
      { result := .error (Throwable.ofFailure (.refusal (.transient f.advice))), cause := some e, rollbacks := 1,
        log := [.warning Guard.logger message] } := by
  obtain ⟨message, hmeasures⟩ := @Guard.measures_passing limit f h
  refine ⟨message, ?_⟩
  simp only [guarded, he, hmeasures]
  rfl

theorem guarded_of_not_passing (he : Throwable.thrown e = .failure f) (h : ¬ f.Passing) :
    guarded limit (.error e : Except ε α) = { result := .error e, cause := none, rollbacks := 1, log := [] } := by
  simp only [guarded, he, Guard.measures_of_not_passing h]
  rfl

theorem guarded_interruption {i : Interruption} (he : Throwable.thrown e = .interruption i) :
    guarded limit (.error e : Except ε α) = { result := .error e, cause := none, rollbacks := 0, log := [] } := by
  simp only [guarded, he, Guard.measures_interruption]
  rfl

/-- The guard lets what was thrown through, or asks to try again. -/
theorem guarded_cases (limit : Binary64) (e : ε) :
    (guarded limit (.error e : Except ε α)).result = .error e ∧
        (guarded limit (.error e : Except ε α)).log = [] ∨
      ∃ detail message, (guarded limit (.error e : Except ε α)).result =
          .error (Throwable.ofFailure (.refusal (.transient detail))) ∧
        (guarded limit (.error e : Except ε α)).log = [.warning Guard.logger message] := by
  cases he : Throwable.thrown e with
  | interruption i =>
    rw [guarded_interruption he]
    exact .inl ⟨rfl, rfl⟩
  | failure f =>
    by_cases h : f.Passing
    · obtain ⟨message, hg⟩ := @guarded_passing ε α _ limit e f he h
      rw [hg]
      exact .inr ⟨_, message, rfl, rfl⟩
    · rw [guarded_of_not_passing he h]
      exact .inl ⟨rfl, rfl⟩

theorem ok_of_guarded {work : Except ε α} {a : α} (h : (guarded limit work).result = .ok a) : work = .ok a := by
  cases work with
  | ok b => exact h
  | error e =>
    rcases guarded_cases (α := α) limit e with ⟨hresult, -⟩ | ⟨detail, message, hresult, -⟩
    · rw [hresult] at h
      cases h
    · rw [hresult] at h
      cases h

theorem error_of_guarded {work : Except ε α} (h : (guarded limit work).result = .error e) :
    ∃ e', work = .error e' := by
  cases work with
  | ok a => cases h
  | error e' => exact ⟨e', rfl⟩

/-- The guard has the session rolled back after a failure, and only then. -/
theorem rollbacks_guarded (limit : Binary64) (e : ε) : (guarded limit (.error e : Except ε α)).rollbacks =
    match Throwable.thrown e with
    | .failure _ => 1
    | .interruption _ => 0 := by
  cases he : Throwable.thrown e with
  | interruption i => rw [guarded_interruption he]
  | failure f =>
    by_cases h : f.Passing
    · obtain ⟨message, hg⟩ := @guarded_passing ε α _ limit e f he h
      rw [hg]
    · rw [guarded_of_not_passing he h]

end Work

end PayoutRegistry
