import PayoutRegistry.Proofs.UnitOfWork
import Mathlib.Algebra.GroupWithZero.Nat

/-!
Serial numbers. Work uses up one number for each row it puts in, and numbers that were used up are not given
back when the work is undone; so a store never numbers two rows alike before its supply runs out.
-/
namespace PayoutRegistry

namespace Uuid

/-- How many serial numbers have identifiers of their own. -/
def supply : Nat := Nat.pow 16 12

theorem toNat_ofSerial (n : Nat) : (ofSerial n).value.toNat % supply = n % supply := by
  simp only [ofSerial, supply, BitVec.toNat_ofNat, Nat.pow_eq]
  omega

theorem ofSerial_inj {m n : Nat} (hm : m < supply) (hn : n < supply)
    (h : ofSerial m = ofSerial n) : m = n := by
  have hmod : m % supply = n % supply := by rw [← toNat_ofSerial, h, toNat_ofSerial]
  rwa [Nat.mod_eq_of_lt hm, Nat.mod_eq_of_lt hn] at hmod

end Uuid

/-- How many serial numbers a step uses up. -/
def Step.serials : Step → Nat
  | .flush statements => (statements.map Statement.serials).sum
  | _ => 0

namespace Work

variable {m : Mishaps} {w : Work Failure Unit} {k : Unit → Work Failure Unit} {n n' : Nat}

/-- Work never gives numbers back, and uses up `n` of them if it succeeds. -/
def Uses (w : Work Failure Unit) (n : Nat) : Prop :=
  ∀ d : Draft, d.serial ≤ (w.on d).2.serial ∧
    ((w.on d).1 = .ok () → (w.on d).2.serial = d.serial + n)

theorem uses_pure : (pure () : Work Failure Unit).Uses 0 := fun _ => ⟨Nat.le_refl _, fun _ => rfl⟩

theorem Uses.bind (hw : w.Uses n) (hk : (k ()).Uses n') : (w >>= k).Uses (n + n') := by
  intro d
  obtain ⟨hle, hok⟩ := hw d
  rw [on_bind]
  rcases h : w.on d with ⟨f | ⟨⟩, d'⟩
  · rw [h] at hle
    exact ⟨hle, nofun⟩
  · rw [h] at hle hok
    obtain ⟨hle', hok'⟩ := hk d'
    have hd := hok rfl
    simp only at hle hd
    refine ⟨Nat.le_trans hle hle', ?_⟩
    intro hres
    rw [hok' hres, hd, Nat.add_assoc]

theorem uses_call (c : Call) : (call m c).Uses 0 := by
  intro d
  rw [on_call]
  cases m c with
  | none => exact ⟨Nat.le_refl _, fun _ => rfl⟩
  | some f => exact ⟨Nat.le_refl _, nofun⟩

theorem Uses.after_call (hw : w.Uses n) (c : Call) : (call m c >>= fun _ => w).Uses n := by
  have h : (call m c >>= fun _ => w).Uses (0 + n) := (uses_call c).bind hw
  rwa [Nat.zero_add] at h

theorem uses_execute (s : Statement) : (execute s).Uses s.serials := by
  intro d
  rw [on_execute]
  cases d.ledger.execute s with
  | ok l => exact ⟨Nat.le_add_right _ _, fun _ => rfl⟩
  | error f => exact ⟨Nat.le_add_right _ _, nofun⟩

theorem uses_statements (statements : List Statement) :
    (statements.forM execute).Uses (statements.map Statement.serials).sum := by
  induction statements with
  | nil => exact uses_pure
  | cons s statements ih => exact (uses_execute s).bind ih

theorem uses_flush (statements : List Statement) :
    (flush m statements).Uses (statements.map Statement.serials).sum := by
  intro d
  -- Counting the flush comes before the call, and does not touch the number.
  have hon : (flush m statements).on d = (call m (.flush (d.flushes + 1)) >>= fun _ =>
      statements.forM execute).on { d with flushes := d.flushes + 1 } := rfl
  rw [hon]
  exact (uses_statements statements).after_call _ { d with flushes := d.flushes + 1 }

theorem uses_claimCounted (now : Instant) (a : Option Account) :
    (claimCounted m now a).Uses 0 := by
  cases a with
  | none => exact uses_pure
  | some a =>
    simp only [claimCounted]
    cases a.isPrimary with
    | true => exact uses_flush []
    | false => exact uses_flush [.update { a with isPrimary := true, updatedAt := now }]

theorem uses_step (s : Step) : (step m s).Uses s.serials := by
  cases s with
  | flush statements => exact uses_flush statements
  | clear owner now => exact (uses_execute (.clearPrimary owner now)).after_call .clear
  | claim owner id now =>
    intro d
    rw [step, on_claim]
    exact (uses_claimCounted now (d.ledger.claimant? owner id)).after_call .count d
  | remove id => exact uses_execute (.remove id)

theorem uses_steps (steps : List Step) :
    (steps.forM (step m)).Uses (steps.map Step.serials).sum := by
  induction steps with
  | nil => exact uses_pure
  | cons s steps ih => exact (uses_step s).bind ih

end Work

namespace Store

variable {s : Store} {m : Mishaps} {limit : Binary64} {judge : Ledger → Decision}

theorem serial_carryOut (s : Store) (m : Mishaps) (steps : List Step) :
    s.serial ≤ (s.carryOut m steps).done.serial ∧ ((s.carryOut m steps).result = .ok () →
      (s.carryOut m steps).done.serial = s.serial + (steps.map Step.serials).sum) :=
  Work.uses_steps (m := m) steps s.session.draft

theorem serial_committed {α : Type} (p : Pending Failure α) (m : Mishaps) (n : Nat) :
    (p.committed m n).session.draft.serial = p.done.serial := by
  rw [Pending.draft_committed]
  rfl

theorem serial_commit {α : Type} (p : Pending Failure α) (m : Mishaps) (n : Nat) :
    (p.commit m n).2.serial = p.done.serial := by
  rw [← serial_committed p m n]
  simp only [Pending.commit]
  split <;> rfl

/-- An attempt that succeeds uses up the numbers of its steps; one that fails gives none back. -/
theorem serial_attempt (s : Store) (m : Mishaps) (limit : Binary64) (judge : Ledger → Decision) :
    s.serial ≤ (s.attempt m limit judge).store.serial ∧
      ∀ steps, (judge s.ledger).verdict = .ok steps → (s.attempt m limit judge).result = .ok () →
        (s.attempt m limit judge).store.serial = s.serial + (steps.map Step.serials).sum := by
  have hserial : (s.attempt m limit judge).store.serial = (s.body m judge).2.session.draft.serial :=
    Session.repeat_rollback_keeps (f := fun s => s.store.serial) (fun _ => rfl) _ _
  have hresult : (s.attempt m limit judge).result = .ok () → (s.body m judge).2.result = .ok () := ok_of_guarded
  rw [hserial]
  refine ⟨?_, fun steps hv h => ?_⟩
  · simp only [body]
    split
    · exact Nat.le_refl _
    · exact Nat.le_refl _
    · rename_i steps _ _
      simp only [serial_committed]
      exact (serial_carryOut s m steps).1
  · have hok := hresult h
    simp only [body, hv] at hok ⊢
    split at hok
    · cases hok
    · rename_i hverdict
      cases hverdict
    · rename_i steps' _ hverdict
      cases hverdict
      simp only [serial_committed]
      refine (serial_carryOut s m steps).2 ?_
      simp only [Pending.committed] at hok
      split at hok
      · exact hok
      · cases hok
      · assumption

end Store

end PayoutRegistry
