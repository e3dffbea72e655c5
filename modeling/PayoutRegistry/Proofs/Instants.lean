import PayoutRegistry.Code
import PayoutRegistry.Json.Reader
import Mathlib.Tactic.SplitIfs

/-! Sums of instants, and the whole seconds that they come to. -/
namespace PayoutRegistry.Instant

variable {now t last : Instant} {delta minutes : Int}

theorem micros_inj : now.micros = t.micros ↔ now = t := by
  cases now
  cases t
  rw [mk.injEq]

theorem add?_eq_some : now.add? delta = some t ↔ (t.micros : Int) = now.micros + delta := by
  have hlt := t.micros_lt
  simp only [add?, ofMicros?]
  constructor
  · intro h
    split_ifs at h with hbound
    obtain rfl := Option.some.inj h
    exact Int.toNat_of_nonneg hbound.1
  · intro h
    have hbound : 0 ≤ now.micros + delta ∧ now.micros + delta < microsLimit := by omega
    have hmicros : (now.micros + delta).toNat = t.micros := by omega
    simp only [hbound, and_self, ↓reduceDIte, hmicros]

/-- A sum has no value exactly if it leaves the years. -/
theorem add?_eq_none :
    now.add? delta = none ↔ now.micros + delta < 0 ∨ microsLimit ≤ now.micros + delta := by
  simp only [add?, ofMicros?]
  split <;> simp <;> omega

theorem exists_add?_iff : (∃ t, now.add? delta = some t) ↔
    0 ≤ now.micros + delta ∧ now.micros + delta < microsLimit := by
  rw [← Option.ne_none_iff_exists', ne_eq, add?_eq_none]
  omega

theorem add?_zero (now : Instant) : now.add? 0 = some now :=
  add?_eq_some.mpr (Int.add_zero _).symm

/-- A reading without an offset is read back as the instant that was written. -/
theorem instant?_unzoned (t : Instant) : ({ wall := t, offset := none } : Moment).instant? = some t :=
  add?_zero t

/-! ### Whole seconds -/

theorem unixSeconds_eq_iff {n : Int} : t.unixSeconds = n ↔
    n * microsPerSecond ≤ t.micros - epochMicros ∧
      t.micros - epochMicros < (n + 1) * microsPerSecond := by
  simp only [unixSeconds, microsPerSecond, Int.fdiv_eq_ediv_of_nonneg _ (Int.natCast_nonneg _)]
  omega

theorem unixSeconds_mono (h : now ≤ t) : now.unixSeconds ≤ t.unixSeconds := by
  have hle : now.micros ≤ t.micros := h
  simp only [unixSeconds, microsPerSecond, Int.fdiv_eq_ediv_of_nonneg _ (Int.natCast_nonneg _)]
  omega

/-- Whole minutes later, the fraction of the second is the same, so the whole seconds are that much later
too. -/
theorem unixSeconds_add (h : now.add? (minutes * microsPerMinute) = some last) :
    last.unixSeconds = now.unixSeconds + 60 * minutes := by
  have hmicros := add?_eq_some.mp h
  simp only [unixSeconds, microsPerMinute, microsPerSecond,
    Int.fdiv_eq_ediv_of_nonneg _ (Int.natCast_nonneg _)] at hmicros ⊢
  omega

theorem length_digits_unixSeconds (now : Instant) :
    (Nat.toDigits 10 now.unixSeconds.natAbs).length ≤ Json.maxDigits := by
  have hlt := now.micros_lt
  have hsmall : now.unixSeconds.natAbs < 10 ^ 18 := by
    simp only [unixSeconds, microsLimit, epochMicros, microsPerDay, microsPerSecond,
      Int.fdiv_eq_ediv_of_nonneg _ (Int.natCast_nonneg _)] at hlt ⊢
    omega
  have hdigits : (Nat.toDigits 10 now.unixSeconds.natAbs).length ≤ 18 :=
    (Nat.length_toDigits_le_iff (by decide) (by decide)).mpr hsmall
  exact Nat.le_trans hdigits (by decide)

end PayoutRegistry.Instant
