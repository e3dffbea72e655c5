import PayoutRegistry.Ledger.UnitOfWork
import PayoutRegistry.Proofs.Guarding
import Mathlib.Tactic.Common

/-!
What units of work come to, as a function of the ledger alone. Serial numbers and the draft are gone from
these equations: a failure leaves the ledger that was there.
-/
namespace PayoutRegistry

namespace Statement

theorem changes_of_ne {old new : Account} (h : { new with updatedAt := old.updatedAt } ≠ old) :
    changes old new = [.update new] := if_neg h

theorem changes_primary (a : Account) (now : Instant) :
    changes a { a with isPrimary := true, updatedAt := now } =
      if a.isPrimary then [] else [.update { a with isPrimary := true, updatedAt := now }] := by
  cases hp : a.isPrimary with
  | true =>
    refine if_pos ?_
    rw [← hp]
  | false =>
    refine changes_of_ne ?_
    intro h
    have hprimary := congrArg Account.isPrimary h
    rw [hp] at hprimary
    cases hprimary

end Statement

namespace Work

/-- What work on a draft comes to, and the draft as it then is. -/
def on (w : Work Failure Unit) (d : Draft) : Except Failure Unit × Draft := w d

variable {m : Mishaps} {d : Draft}

theorem on_bind (w : Work Failure Unit) (k : Unit → Work Failure Unit) : (w >>= k).on d = match w.on d with
    | (.ok (), d') => (k ()).on d'
    | (.error f, d') => (.error f, d') := by
  rcases h : w.on d with ⟨f | ⟨⟩, d'⟩ <;> simp only [on] at h
  · simp only [on, bind, ExceptT.bind, ExceptT.mk, StateT.bind, h, ExceptT.bindCont]
    rfl
  · simp only [on, bind, ExceptT.bind, ExceptT.mk, StateT.bind, h, ExceptT.bindCont]

theorem on_call (c : Call) : (call m c).on d = match m c with
    | some f => (.error f, d)
    | none => (.ok (), d) := by
  simp only [call]
  cases m c <;> rfl

theorem on_execute (s : Statement) : (execute s).on d = match d.ledger.execute s with
    | .ok ledger => (.ok (), { d with ledger, serial := d.serial + s.serials, sent := d.sent ++ [s] })
    | .error f => (.error f, { d with serial := d.serial + s.serials, sent := d.sent ++ [s] }) := by
  -- The state is read and written before the statement, so one bind does not show it.
  change ((do
    match d.ledger.execute s with
    | .ok ledger => modify fun d => { d with ledger }
    | .error f => throw f : Work Failure Unit)).on
      { d with serial := d.serial + s.serials, sent := d.sent ++ [s] } = _
  cases d.ledger.execute s <;> rfl

end Work

/-! ### What is left to say of a step when the draft is forgotten -/

/-- The account that is to become primary: the one named, if the user has one verified account. -/
def Ledger.claimant? (l : Ledger) (owner id : Uuid) : Option Account :=
  if l.verifiedCount owner = 1 then l.account? id else none

namespace Step

/-- What a step does to a ledger when no call fails. -/
def effect (l : Ledger) : Step → Except Failure Ledger
  | .flush statements => statements.foldlM Ledger.execute l
  | .clear owner now => l.execute (.clearPrimary owner now)
  | .claim owner id now =>
    match l.claimant? owner id with
    | some a =>
      if a.isPrimary then .ok l
      else l.execute (.update { a with isPrimary := true, updatedAt := now })
    | none => .ok l
  | .remove id => l.execute (.remove id)

/-- How many flushes a step makes. -/
def flushes (l : Ledger) : Step → Nat
  | .flush _ => 1
  | .claim owner id _ => if (l.claimant? owner id).isSome then 1 else 0
  | _ => 0

/-- The calls that a step makes, after `n` flushes. -/
def calls (l : Ledger) (n : Nat) : Step → List Call
  | .flush _ => [.flush (n + 1)]
  | .clear .. => [.clear]
  | .claim owner id _ => .count :: if (l.claimant? owner id).isSome then [.flush (n + 1)] else []
  | .remove _ => []

/-- The ledger after a step, or the failure that ends it. -/
def outcome (m : Mishaps) (n : Nat) (l : Ledger) (s : Step) : Except Failure Ledger :=
  match (s.calls l n).findSome? m with
  | some f => .error f
  | none => s.effect l

theorem outcome_flush {m : Mishaps} {n : Nat} {l : Ledger} (statements : List Statement) :
    outcome m n l (.flush statements) = match m (.flush (n + 1)) with
      | some f => .error f
      | none => statements.foldlM Ledger.execute l := by
  simp only [outcome, calls, effect, List.findSome?_cons, List.findSome?_nil]
  cases m (.flush (n + 1)) <;> rfl

end Step

namespace Ledger

/-- The ledger that work leaves: a new one, or the one that was there. -/
def kept (l : Ledger) : Except Failure Ledger → Ledger
  | .ok l' => l'
  | .error _ => l

/-- The calls that steps make when none of them fails, after `n` flushes. -/
def made (l : Ledger) (n : Nat) : List Step → List Call
  | [] => []
  | s :: steps => s.calls l n ++ made (l.kept (s.effect l)) (n + s.flushes l) steps

/-- The ledger after steps that are not committed yet. -/
def carried (m : Mishaps) (n : Nat) (l : Ledger) : List Step → Except Failure Ledger
  | [] => .ok l
  | s :: steps =>
    match s.outcome m n l with
    | .ok l' => carried m (n + s.flushes l) l' steps
    | .error f => .error f

/-- The ledger after steps and their commit. -/
def worked (m : Mishaps) (l : Ledger) (steps : List Step) : Except Failure Ledger :=
  match l.carried m 0 steps, m (.commit 1) with
  | .error f, _ => .error f
  | .ok _, some f => .error f
  | .ok l', none => .ok l'

/-- The ledger after a decision on it was made and carried out. -/
def attempted (m : Mishaps) (judge : Ledger → Decision) (l : Ledger) : Except Failure Ledger :=
  match m .lock, (judge l).verdict with
  | some f, _ => .error f
  | none, .error r => .error (.refusal r)
  | none, .ok steps => l.worked m steps

end Ledger

namespace Work

variable {m : Mishaps} {d : Draft} {l : Ledger} {f : Failure}

/-- Work that ends as a ledger or a failure says, with `n` flushes made in all. -/
def Comes (w : Work Failure Unit) (d : Draft) (n : Nat) : Except Failure Ledger → Prop
  | .error f => (w.on d).1 = .error f
  | .ok l => ∃ serial sent, w.on d = (.ok (), { ledger := l, serial, flushes := n, sent })

theorem Comes.congr {w w' : Work Failure Unit} {d' : Draft} {n : Nat} {r : Except Failure Ledger}
    (h : w.on d = w'.on d') (hw : w'.Comes d' n r) : w.Comes d n r := by
  cases r <;> simpa only [Comes, h] using hw

theorem Comes.bind {w : Work Failure Unit} {k : Unit → Work Failure Unit} {n n' : Nat}
    {r : Except Failure Ledger} (hw : w.Comes d n (.ok l))
    (hk : ∀ serial sent, (k ()).Comes { ledger := l, serial, flushes := n, sent } n' r) :
    (w >>= k).Comes d n' r := by
  obtain ⟨serial, sent, hw⟩ := hw
  have hk := hk serial sent
  cases r with
  | error f => simpa only [Comes, on_bind, hw] using hk
  | ok l' => simpa only [Comes, on_bind, hw] using hk

theorem Comes.bind_error {w : Work Failure Unit} {k : Unit → Work Failure Unit} {n n' : Nat}
    (hw : w.Comes d n (.error f)) : (w >>= k).Comes d n' (.error f) := by
  simp only [Comes, on_bind] at hw ⊢
  rcases h : w.on d with ⟨_ | _, d'⟩ <;> simp_all

theorem call_comes (c : Call) : (call m c).Comes d d.flushes (match m c with
    | some f => .error f
    | none => .ok d.ledger) := by
  cases h : m c with
  | none => exact ⟨d.serial, d.sent, by rw [on_call, h]⟩
  | some f => simp [Comes, on_call, h]

theorem execute_comes (s : Statement) :
    (execute s).Comes d d.flushes (d.ledger.execute s) := by
  cases h : d.ledger.execute s with
  | error f => simp [Comes, on_execute, h]
  | ok l => exact ⟨d.serial + s.serials, d.sent ++ [s], by rw [on_execute, h]⟩

theorem statements_come (statements : List Statement) :
    (statements.forM execute).Comes d d.flushes
      (statements.foldlM Ledger.execute d.ledger) := by
  induction statements generalizing d with
  | nil => exact ⟨d.serial, d.sent, rfl⟩
  | cons s statements ih =>
    have hs := execute_comes (d := d) s
    rw [List.foldlM_cons]
    change (execute s >>= fun _ => statements.forM execute).Comes d _ _
    cases he : d.ledger.execute s with
    | error f =>
      rw [he] at hs
      exact hs.bind_error
    | ok l =>
      rw [he] at hs
      exact hs.bind fun serial sent => ih (d := { ledger := l, serial, flushes := d.flushes, sent })

theorem flush_comes (statements : List Statement) :
    (flush m statements).Comes d (d.flushes + 1)
      (Step.outcome m d.flushes d.ledger (.flush statements)) := by
  let d' : Draft := { d with flushes := d.flushes + 1 }
  -- Counting the flush comes before the call, so the rest is work on `d'`.
  have hon : (flush m statements).on d =
      (call m (.flush d'.flushes) >>= fun _ => statements.forM execute).on d' := rfl
  have hc := call_comes (m := m) (d := d') (.flush d'.flushes)
  refine Comes.congr hon ?_
  rw [Step.outcome_flush]
  cases hf : m (.flush d'.flushes) with
  | some f =>
    rw [hf] at hc
    exact hc.bind_error
  | none =>
    rw [hf] at hc
    exact hc.bind fun serial sent => statements_come (d := { d' with serial, sent }) statements

theorem clear_comes (owner : Uuid) (now : Instant) :
    (clear m owner now).Comes d d.flushes
      (Step.outcome m d.flushes d.ledger (.clear owner now)) := by
  have hc := call_comes (m := m) (d := d) .clear
  simp only [Step.outcome, Step.calls, List.findSome?_cons, List.findSome?_nil]
  cases hf : m .clear with
  | some f =>
    rw [hf] at hc
    exact hc.bind_error
  | none =>
    rw [hf] at hc
    exact hc.bind fun serial sent => execute_comes (d := { d with serial, sent }) (.clearPrimary owner now)

/-- What claiming does once the verified accounts are counted. -/
def claimCounted (m : Mishaps) (now : Instant) : Option Account → Work Failure Unit
  | some a =>
    flush m (if a.isPrimary then [] else [.update { a with isPrimary := true, updatedAt := now }])
  | none => pure ()

theorem on_claim (owner id : Uuid) (now : Instant) : (claim m owner id now).on d =
    (call m .count >>= fun _ => claimCounted m now (d.ledger.claimant? owner id)).on d := by
  rw [on_bind, on_call, claim, on_bind, on_call]
  cases m .count with
  | some f => rfl
  | none =>
    change Work.on (if d.ledger.verifiedCount owner = 1 then
      (match d.ledger.account? id with
        | some a => flush m (Statement.changes a { a with isPrimary := true, updatedAt := now })
        | none => pure ())
      else pure ()) d = _
    simp only [Ledger.claimant?, Statement.changes_primary]
    split
    · cases d.ledger.account? id <;> rfl
    · rfl

theorem claim_comes (owner id : Uuid) (now : Instant) :
    (claim m owner id now).Comes d (d.flushes + Step.flushes d.ledger (.claim owner id now))
      (Step.outcome m d.flushes d.ledger (.claim owner id now)) := by
  refine Comes.congr (on_claim owner id now) ?_
  have hc := call_comes (m := m) (d := d) .count
  simp only [Step.outcome, Step.calls, Step.flushes, Step.effect, List.findSome?_cons]
  cases hm : m .count with
  | some f =>
    rw [hm] at hc
    exact hc.bind_error
  | none =>
    rw [hm] at hc
    refine hc.bind fun serial sent => ?_
    cases d.ledger.claimant? owner id with
    | none => exact ⟨serial, sent, rfl⟩
    | some a =>
      have hf := flush_comes (m := m) (d := { d with serial, sent })
        (if a.isPrimary then [] else [.update { a with isPrimary := true, updatedAt := now }])
      rw [Step.outcome_flush] at hf
      simp only [claimCounted, Option.isSome_some, ↓reduceIte, List.findSome?_cons,
        List.findSome?_nil]
      cases hn : m (.flush (d.flushes + 1)) with
      | some f => simpa only [hn] using hf
      | none =>
        cases hp : a.isPrimary with
        | true => simpa [hn, hp, pure, Except.pure] using hf
        | false => simpa [hn, hp] using hf

theorem step_comes (s : Step) :
    (step m s).Comes d (d.flushes + s.flushes d.ledger) (s.outcome m d.flushes d.ledger) := by
  cases s with
  | flush statements => exact flush_comes statements
  | clear owner now => exact clear_comes owner now
  | claim owner id now => exact claim_comes owner id now
  | remove id => exact execute_comes (.remove id)

theorem steps_come (steps : List Step) :
    ∃ n, (steps.forM (step m)).Comes d n (d.ledger.carried m d.flushes steps) := by
  induction steps generalizing d with
  | nil => exact ⟨d.flushes, d.serial, d.sent, rfl⟩
  | cons s steps ih =>
    have hs := step_comes (m := m) (d := d) s
    change ∃ n, (step m s >>= fun _ => steps.forM (step m)).Comes d n _
    simp only [Ledger.carried]
    cases ho : s.outcome m d.flushes d.ledger with
    | error f =>
      rw [ho] at hs
      exact ⟨0, hs.bind_error⟩
    | ok l =>
      rw [ho] at hs
      -- The serial number and the statements that the first step leaves are all that the rest may differ in.
      obtain ⟨serial, sent, hs⟩ := hs
      obtain ⟨n, hn⟩ := ih (d := { ledger := l, serial, flushes := d.flushes + s.flushes d.ledger, sent })
      refine ⟨n, ?_⟩
      cases hr : l.carried m (d.flushes + s.flushes d.ledger) steps with
      | error f => simpa only [Comes, on_bind, hs, hr] using hn
      | ok l' => simpa only [Comes, on_bind, hs, hr] using hn

end Work

namespace Session

/-- Rolling back again undoes nothing more. -/
theorem repeat_rollback (n : Nat) (s : Session) :
    (n + 1).repeat Session.rollback s = s.rollback := by
  induction n with
  | zero => rfl
  | succ n ih =>
    rw [Nat.repeat, ih]
    rfl

/-- What a rollback leaves alone, any number of them does. -/
theorem repeat_rollback_keeps {β : Type} {f : Session → β} (h : ∀ s, f s.rollback = f s) (n : Nat) (s : Session) :
    f (n.repeat Session.rollback s) = f s := by
  induction n with
  | zero => rfl
  | succ n ih => rw [Nat.repeat, h, ih]

end Session

section Attempts

/-! ### Attempts that anything may end -/

variable {ε α : Type} [Throwable ε] {s : Store} {m : Call → Option ε} {limit : Binary64}
  {judge : Ledger → Decision} {e : ε}

omit [Throwable ε] in
theorem Pending.draft_committed (p : Pending ε α) (m : Call → Option ε) (n : Nat) :
    (p.committed m n).session.draft = p.session.draft := by
  simp only [committed]
  split <;> rfl

omit [Throwable ε] in
/-- Work that failed, or could not be made last, has not become so. -/
theorem Pending.lasting_committed {p : Pending ε α} {n : Nat} (h : (p.committed m n).result = .error e) :
    (p.committed m n).session.lasting = p.session.lasting := by
  simp only [committed] at h ⊢
  split
  · rfl
  · rfl
  · rename_i a hr hm
    simp only [hr, hm] at h
    cases h

omit [Throwable ε] in
/-- Work that was made last is what others see. -/
theorem Pending.lasting_of_ok {p : Pending ε α} {n : Nat} {a : α} (h : (p.committed m n).result = .ok a) :
    (p.committed m n).session.lasting = (p.committed m n).session.draft.ledger := by
  simp only [committed] at h ⊢
  split
  · rename_i e _ hr
    simp only [hr] at h
    cases h
  · rename_i e hr hm
    simp only [hr, hm] at h
    cases h
  · rfl

namespace Store

theorem body_undone (h : (s.body m judge).2.result = .error e) :
    (s.body m judge).2.session.lasting = s.ledger := by
  simp only [body] at h ⊢
  split
  · rfl
  · rfl
  · rename_i steps hm hv
    simp only [hm, hv] at h
    exact Pending.lasting_committed h

theorem body_kept (h : (s.body m judge).2.result = .ok ()) :
    (s.body m judge).2.session.lasting = (s.body m judge).2.session.draft.ledger := by
  simp only [body] at h ⊢
  split
  · rename_i e _ hm
    simp only [hm] at h
    cases h
  · rename_i r hm hv
    simp only [hm, hv] at h
    cases h
  · rename_i steps hm hv
    simp only [hm, hv] at h
    exact Pending.lasting_of_ok h

/-- Whatever ends an attempt, it is undone when its session is closed. What leaves the guard as a failure was undone
by the guard. -/
theorem attempt_undone (h : (s.attempt m limit judge).result = .error e) :
    (s.attempt m limit judge).closed.ledger = s.ledger ∧
      ∀ f, Throwable.thrown e = .failure f → (s.attempt m limit judge).store.ledger = s.ledger := by
  obtain ⟨e', he'⟩ : ∃ e', (s.body m judge).2.result = .error e' := error_of_guarded h
  have hlasting : (s.attempt m limit judge).session.lasting = s.ledger :=
    (Session.repeat_rollback_keeps (f := Session.lasting) (fun _ => rfl) _ _).trans (body_undone he')
  refine ⟨hlasting, ?_⟩
  intro f hf
  have hrollbacks : (guarded limit (s.body m judge).2.result).rollbacks = 0 + 1 := by
    rw [he', rollbacks_guarded]
    cases ht : Throwable.thrown e' with
    | failure f' => rfl
    | interruption i =>
      -- An interruption leaves the guard as it is, and so it is no failure.
      have hresult : (guarded limit (s.body m judge).2.result).result = .error e := h
      rw [he', guarded_interruption ht] at hresult
      rw [Except.error.inj hresult, hf] at ht
      cases ht
  have hsession : (s.attempt m limit judge).session = (s.body m judge).2.session.rollback := by
    simp only [attempt, Pending.guarded, hrollbacks, Session.repeat_rollback]
  rw [Attempt.store, hsession]
  exact body_undone he'

/-- A time limit that overtakes the commit undoes nothing of what was made last. Who is told to try again does so on
the store that the attempt leaves which is not overtaken. -/
theorem overtaken_kept (h : (s.attempt m limit judge).result = .ok ()) :
    (s.overtaken m limit judge).result =
        .error (Throwable.ofFailure (.refusal (.transient Refusal.timeoutDetail))) ∧
      (s.overtaken m limit judge).store = (s.attempt m limit judge).store ∧
      (s.overtaken m limit judge).closed = (s.overtaken m limit judge).store := by
  have hok : (s.body m judge).2.result = .ok () := ok_of_guarded h
  have hkept := body_kept hok
  obtain ⟨message, hg⟩ := @guarded_passing ε Unit _ limit (Throwable.ofFailure (.timeout "")) (.timeout "")
    (Throwable.thrown_ofFailure (.timeout "")) (.timeout "")
  have hover : s.overtaken m limit judge =
      { session := (s.body m judge).2.session.rollback, log := (s.body m judge).1 ++ [.warning Guard.logger message],
        result := .error (Throwable.ofFailure (.refusal (.transient Refusal.timeoutDetail))) } := by
    simp only [overtaken, Pending.andThen, hok, Except.bind, Pending.guarded, hg]
    rfl
  have hstore : (s.attempt m limit judge).store = (s.body m judge).2.session.store := by
    simp only [Attempt.store, attempt, Pending.guarded, hok]
    rfl
  rw [hover, hstore]
  refine ⟨rfl, ?_, rfl⟩
  simp only [Attempt.store, Session.store, Session.rollback, hkept]

end Store

end Attempts

/-- Under guard, work that failed is rolled back, and no other. -/
theorem Pending.session_guarded (p : Pending Failure Unit) (limit : Binary64) (log : List LogRecord) :
    (p.guarded limit log).session =
      match p.result with
      | .ok _ => p.session
      | .error _ => p.session.rollback := by
  simp only [Pending.guarded]
  cases p.result with
  | ok => rfl
  | error f =>
    have hrollbacks : (PayoutRegistry.guarded limit (.error f : Except Failure Unit)).rollbacks = 0 + 1 :=
      rollbacks_guarded limit f
    rw [hrollbacks, Session.repeat_rollback]

namespace Store

variable {s : Store} {m : Mishaps} {limit : Binary64} {judge : Ledger → Decision}

theorem carryOut_error {steps : List Step} {f : Failure}
    (h : s.ledger.carried m 0 steps = .error f) : (s.carryOut m steps).result = .error f := by
  obtain ⟨n, hc⟩ := Work.steps_come (m := m) (d := s.session.draft) steps
  rw [session, h] at hc
  exact hc

theorem carryOut_ok {steps : List Step} {l : Ledger} (h : s.ledger.carried m 0 steps = .ok l) :
    (s.carryOut m steps).result = .ok () ∧ (s.carryOut m steps).done.ledger = l := by
  obtain ⟨n, hc⟩ := Work.steps_come (m := m) (d := s.session.draft) steps
  rw [session, h] at hc
  obtain ⟨serial, sent, hc⟩ := hc
  have hr : (s.carryOut m steps).result = ((steps.forM (Work.step m)).on s.session.draft).1 := rfl
  have hd : (s.carryOut m steps).done.ledger =
    ((steps.forM (Work.step m)).on s.session.draft).2.ledger := rfl
  rw [hr, hd, session, hc]
  exact ⟨rfl, rfl⟩

/-- What the guard of an attempt is around: the ledger that it comes to is made last at once, and after a failure it
is still to be undone. -/
theorem body_eq (s : Store) (m : Mishaps) (judge : Ledger → Decision) :
    (s.body m judge).1 = (if (m .lock).isSome then [] else (judge s.ledger).log) ∧
      (s.body m judge).2.result = (s.ledger.attempted m judge).map (fun _ => ()) ∧
      (s.body m judge).2.session.lasting = s.ledger.kept (s.ledger.attempted m judge) ∧
      ∀ l, s.ledger.attempted m judge = .ok l → (s.body m judge).2.session.draft.ledger = l := by
  simp only [body, Ledger.attempted]
  cases m .lock with
  | some f => exact ⟨rfl, rfl, rfl, nofun⟩
  | none =>
    cases hv : (judge s.ledger).verdict with
    | error r => exact ⟨rfl, rfl, rfl, nofun⟩
    | ok steps =>
      simp only [Ledger.worked, Pending.committed]
      cases hc : s.ledger.carried m 0 steps with
      | error f =>
        simp only [carryOut_error hc]
        exact ⟨rfl, rfl, rfl, nofun⟩
      | ok l =>
        obtain ⟨hr, hd⟩ := carryOut_ok hc
        cases m (.commit 1) with
        | some f =>
          simp only [hr]
          exact ⟨rfl, rfl, rfl, nofun⟩
        | none =>
          simp only [hr]
          refine ⟨rfl, rfl, hd, ?_⟩
          intro l' hl'
          exact hd.trans (Except.ok.inj hl')

/-- The result, the ledger and the log of an attempt are functions of the ledger it begins with. What failed is
undone because the guard has it rolled back, and what succeeded is kept because it does not. -/
theorem attempt_eq (s : Store) (m : Mishaps) (limit : Binary64) (judge : Ledger → Decision) :
    let r := s.ledger.attempted m judge
    let g := guarded limit (r.map fun _ => ())
    (s.attempt m limit judge).result = g.result ∧
      (s.attempt m limit judge).store.ledger = s.ledger.kept r ∧
      (s.attempt m limit judge).session.lasting = s.ledger.kept r ∧
      (s.attempt m limit judge).log =
        (if (m .lock).isSome then [] else (judge s.ledger).log) ++ g.log := by
  obtain ⟨hlog, hresult, hlasting, hdraft⟩ := body_eq s m judge
  have hsession : (s.attempt m limit judge).session = _ := Pending.session_guarded (s.body m judge).2 limit _
  simp only [Attempt.store, hsession, hresult]
  simp only [attempt, Pending.guarded, hresult, hlog]
  cases hr : s.ledger.attempted m judge with
  | ok l =>
    rw [hr] at hlasting
    exact ⟨trivial, hdraft l hr, hlasting, trivial⟩
  | error f =>
    rw [hr] at hlasting
    exact ⟨trivial, hlasting, hlasting, trivial⟩

/-- When an attempt is over, nothing is left in its session that would still have to be made last or undone. -/
theorem attempt_settled (s : Store) (m : Mishaps) (limit : Binary64) (judge : Ledger → Decision) :
    (s.attempt m limit judge).store.ledger = (s.attempt m limit judge).session.lasting := by
  obtain ⟨-, hledger, hlasting, -⟩ := attempt_eq s m limit judge
  rw [hledger, hlasting]

end Store

/-! ### Attempts that succeed, fail, or meet no failing call -/

theorem effect_of_outcome {m : Mishaps} {n : Nat} {l l' : Ledger} {s : Step}
    (h : s.outcome m n l = .ok l') : s.effect l = .ok l' := by
  simp only [Step.outcome] at h
  split at h
  · cases h
  · exact h

theorem effects_of_carried {m : Mishaps} {n : Nat} {l l' : Ledger} {steps : List Step}
    (h : l.carried m n steps = .ok l') : steps.foldlM Step.effect l = .ok l' := by
  induction steps generalizing l n with
  | nil => exact h
  | cons s steps ih =>
    simp only [Ledger.carried] at h
    cases ho : s.outcome m n l with
    | error f =>
      rw [ho] at h
      cases h
    | ok l₁ =>
      rw [ho] at h
      rw [List.foldlM_cons, effect_of_outcome ho]
      exact ih h

theorem effects_of_worked {m : Mishaps} {l l' : Ledger} {steps : List Step}
    (h : l.worked m steps = .ok l') : steps.foldlM Step.effect l = .ok l' := by
  simp only [Ledger.worked] at h
  split at h
  · cases h
  · cases h
  · rename_i l₁ hc _
    cases h
    exact effects_of_carried hc

theorem made_flush (l : Ledger) (n : Nat) (statements : List Statement) :
    l.made n [.flush statements] = [.flush (n + 1)] := rfl

/-- Steps that are possible succeed unless one of the calls that they make fails. -/
theorem carried_eq {m : Mishaps} {n : Nat} {l l' : Ledger} {steps : List Step}
    (h : steps.foldlM Step.effect l = .ok l') :
    l.carried m n steps = match (l.made n steps).findSome? m with
      | some f => .error f
      | none => .ok l' := by
  induction steps generalizing l n with
  | nil => exact h
  | cons s steps ih =>
    rw [List.foldlM_cons] at h
    cases he : s.effect l with
    | error f =>
      rw [he] at h
      cases h
    | ok l₁ =>
      rw [he] at h
      simp only [Ledger.carried, Ledger.made, Step.outcome, List.findSome?_append, he]
      cases (s.calls l n).findSome? m with
      | some f => rfl
      | none => exact ih h

theorem worked_eq {m : Mishaps} {l l' : Ledger} {steps : List Step}
    (h : steps.foldlM Step.effect l = .ok l') :
    l.worked m steps = match (l.made 0 steps ++ [Call.commit 1]).findSome? m with
      | some f => .error f
      | none => .ok l' := by
  rw [Ledger.worked, carried_eq h, List.findSome?_append]
  cases (l.made 0 steps).findSome? m with
  | some f => rfl
  | none =>
    simp only [Option.none_or, List.findSome?_cons, List.findSome?_nil]
    cases m (.commit 1) <;> rfl

theorem worked_calm {l l' : Ledger} {steps : List Step}
    (h : steps.foldlM Step.effect l = .ok l') : l.worked calm steps = .ok l' := by
  have hcalm : (l.made 0 steps ++ [Call.commit 1]).findSome? calm = none :=
    List.findSome?_eq_none_iff.mpr fun _ _ => rfl
  rw [worked_eq h, hcalm]

namespace Store

variable {s : Store} {m : Mishaps} {limit : Binary64} {judge : Ledger → Decision}

theorem attempt_ok (h : (s.attempt m limit judge).result = .ok ()) :
    ∃ steps, (judge s.ledger).verdict = .ok steps ∧ s.ledger.worked m steps =
        .ok (s.attempt m limit judge).store.ledger ∧
      (s.attempt m limit judge).log = (judge s.ledger).log := by
  obtain ⟨hr, hl, -, hlog⟩ := attempt_eq s m limit judge
  have hwork := ok_of_guarded (hr.symm.trans h)
  rw [hl, hlog]
  cases ha : s.ledger.attempted m judge with
  | error f =>
    rw [ha] at hwork
    cases hwork
  | ok l =>
    simp only [Ledger.attempted] at ha
    split at ha
    · cases ha
    · cases ha
    · rename_i steps hm hv
      exact ⟨steps, hv, ha, by simp [hm, guarded, Except.map]⟩

/-- An attempt that succeeds met no failure: not in locking the rows, in a step or in the commit. -/
theorem attempt_calls (h : (s.attempt m limit judge).result = .ok ()) :
    m .lock = none ∧ ∃ steps, (judge s.ledger).verdict = .ok steps ∧
      ∀ p ∈ s.ledger.made 0 steps ++ [Call.commit 1], m p = none := by
  obtain ⟨steps, hv, hw, -⟩ := attempt_ok h
  obtain ⟨hr, -, -⟩ := attempt_eq s m limit judge
  have hlock : m .lock = none := by
    cases hm : m .lock with
    | none => rfl
    | some f =>
      have hwork := ok_of_guarded (hr.symm.trans h)
      simp only [Ledger.attempted, hm] at hwork
      cases hwork
  refine ⟨hlock, steps, hv, ?_⟩
  have hcalls := worked_eq (m := m) (effects_of_worked hw)
  rw [hw] at hcalls
  cases hf : (s.ledger.made 0 steps ++ [Call.commit 1]).findSome? m with
  | none => exact List.findSome?_eq_none_iff.mp hf
  | some f =>
    rw [hf] at hcalls
    cases hcalls

theorem attempt_error {f : Failure} (h : (s.attempt m limit judge).result = .error f) :
    (s.attempt m limit judge).store.ledger = s.ledger :=
  (attempt_undone h).2 f rfl

theorem attempt_calm {steps : List Step} {l : Ledger} (hv : (judge s.ledger).verdict = .ok steps)
    (he : steps.foldlM Step.effect s.ledger = .ok l) :
    (s.attempt calm limit judge).result = .ok () ∧
      (s.attempt calm limit judge).store.ledger = l := by
  obtain ⟨hr, hl, -⟩ := attempt_eq s calm limit judge
  have ha : s.ledger.attempted calm judge = .ok l := by
    simp only [Ledger.attempted, hv, calm]
    exact worked_calm he
  rw [hr, hl, ha]
  exact ⟨rfl, rfl⟩

end Store

/-! ### Pairs of attempts -/

/-- Two results of work: ledgers that are related, or the same failure. -/
inductive Matched (R : Ledger → Ledger → Prop) : Except Failure Ledger → Except Failure Ledger → Prop
  | ok {l₁ l₂ : Ledger} (h : R l₁ l₂) : Matched R (.ok l₁) (.ok l₂)
  | error (f : Failure) : Matched R (.error f) (.error f)

namespace Matched

variable {R : Ledger → Ledger → Prop} {r₁ r₂ : Except Failure Ledger} {l₁ l₂ l₁' l₂' : Ledger}
  {m : Mishaps}

theorem results (h : Matched R r₁ r₂) : r₁.map (fun _ => ()) = r₂.map fun _ => () := by
  cases h <;> rfl

theorem kept (h : Matched R r₁ r₂) (hl : R l₁ l₂) : R (l₁.kept r₁) (l₂.kept r₂) := by
  cases h with
  | ok h => exact h
  | error f => exact hl

/-- Steps that are possible in both ledgers fail together if they make the same calls. -/
theorem worked {steps₁ steps₂ : List Step} (h : R l₁' l₂')
    (h₁ : steps₁.foldlM Step.effect l₁ = .ok l₁') (h₂ : steps₂.foldlM Step.effect l₂ = .ok l₂')
    (hm : l₁.made 0 steps₁ = l₂.made 0 steps₂) :
    Matched R (l₁.worked m steps₁) (l₂.worked m steps₂) := by
  rw [worked_eq h₁, worked_eq h₂, hm]
  cases (l₂.made 0 steps₂ ++ [Call.commit 1]).findSome? m with
  | some f => exact .error f
  | none => exact .ok h

theorem attempted {judge₁ judge₂ : Ledger → Decision}
    (hrefuse : ∀ r, (judge₁ l₁).verdict = .error r → (judge₂ l₂).verdict = .error r)
    (htake : ∀ steps₁, (judge₁ l₁).verdict = .ok steps₁ →
      ∃ steps₂, (judge₂ l₂).verdict = .ok steps₂ ∧
        Matched R (l₁.worked m steps₁) (l₂.worked m steps₂)) :
    Matched R (l₁.attempted m judge₁) (l₂.attempted m judge₂) := by
  simp only [Ledger.attempted]
  cases m .lock with
  | some f => exact .error f
  | none =>
    cases hv : (judge₁ l₁).verdict with
    | error r =>
      rw [hrefuse r hv]
      exact .error (.refusal r)
    | ok steps₁ =>
      obtain ⟨steps₂, hv₂, hw⟩ := htake steps₁ hv
      rw [hv₂]
      exact hw

theorem attempt {s₁ s₂ : Store} {limit : Binary64} {judge₁ judge₂ : Ledger → Decision}
    (h : Matched R (s₁.ledger.attempted m judge₁) (s₂.ledger.attempted m judge₂))
    (hlog : (judge₁ s₁.ledger).log = (judge₂ s₂.ledger).log) (hl : R s₁.ledger s₂.ledger) :
    (s₁.attempt m limit judge₁).result = (s₂.attempt m limit judge₂).result ∧
      (s₁.attempt m limit judge₁).log = (s₂.attempt m limit judge₂).log ∧
      R (s₁.attempt m limit judge₁).store.ledger (s₂.attempt m limit judge₂).store.ledger := by
  obtain ⟨hr₁, hl₁, -, hg₁⟩ := Store.attempt_eq s₁ m limit judge₁
  obtain ⟨hr₂, hl₂, -, hg₂⟩ := Store.attempt_eq s₂ m limit judge₂
  rw [hr₁, hr₂, hg₁, hg₂, hl₁, hl₂, h.results, hlog]
  exact ⟨rfl, rfl, h.kept hl⟩

end Matched

end PayoutRegistry
