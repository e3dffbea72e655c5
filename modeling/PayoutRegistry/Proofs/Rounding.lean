import PayoutRegistry.Code
import Mathlib.Algebra.Order.Field.Power
import Mathlib.Algebra.Order.Ring.Rat
import Mathlib.Tactic.FieldSimp
import Mathlib.Tactic.Linarith
import Mathlib.Tactic.Positivity
import Mathlib.Tactic.Ring

/-!
How far rounding goes. A quotient that is rounded to 53 bits is off by at most its 2^53th part, and not at
all if it has a finite binary fraction that short.
-/
namespace PayoutRegistry

/-- A natural that is nearest to a value, and the even one of two that are equally near. -/
structure IsNearest (n : Nat) (q : ℚ) : Prop where
  near : |(n : ℚ) - q| ≤ 1 / 2
  even : |(n : ℚ) - q| = 1 / 2 → Even n

variable {num den n : Nat} {e : Int} {q t : ℚ}

theorem quotient_eq (hden : 0 < den) :
    (num : ℚ) / den = (num / den : Nat) + ((num % den : Nat) : ℚ) / den := by
  have hsplit : ((den * (num / den) + num % den : Nat) : ℚ) = num := by rw [Nat.div_add_mod]
  push_cast at hsplit
  have hne : (den : ℚ) ≠ 0 := by positivity
  rw [eq_comm, ← hsplit]
  field_simp

theorem IsNearest.of_lt (h : |(n : ℚ) - q| < 1 / 2) : IsNearest n q :=
  ⟨h.le, fun heq => absurd heq h.ne⟩

theorem roundQuotient_nearest (hden : 0 < den) : IsNearest (roundQuotient num den) (num / den) := by
  have hpos : (0 : ℚ) < den := by positivity
  have hrest : (0 : ℚ) ≤ ((num % den : Nat) : ℚ) / den := by positivity
  have hlt : ((num % den : Nat) : ℚ) / den < 1 := by
    rw [div_lt_one hpos]
    exact_mod_cast Nat.mod_lt num hden
  have hhalf : 2 * (((num % den : Nat) : ℚ) / den) = ((2 * (num % den) : Nat) : ℚ) / den := by
    push_cast
    ring
  rw [quotient_eq hden]
  generalize ((num % den : Nat) : ℚ) / den = rest at hrest hlt hhalf
  simp only [roundQuotient]
  split_ifs with hless hmore heven
  · have hsmall : 2 * rest < 1 := by
      rw [hhalf, div_lt_one hpos]
      exact_mod_cast hless
    refine .of_lt ?_
    rw [abs_lt]
    constructor <;> linarith
  · have hlarge : 1 < 2 * rest := by
      rw [hhalf, one_lt_div hpos]
      exact_mod_cast hmore
    refine .of_lt ?_
    rw [abs_lt, Nat.cast_add_one]
    constructor <;> linarith
  all_goals
    have hequal : 2 * rest = 1 := by
      rw [hhalf, div_eq_one_iff_eq hpos.ne']
      exact_mod_cast Nat.le_antisymm (Nat.not_lt.mp hmore) (Nat.not_lt.mp hless)
  · refine ⟨?_, fun _ => Nat.even_iff.mpr heven⟩
    rw [abs_le]
    constructor <;> linarith
  · refine ⟨?_, fun _ => Nat.even_iff.mpr (by omega)⟩
    rw [abs_le, Nat.cast_add_one]
    constructor <;> linarith

theorem roundQuotient_eq (hden : 0 < den) : roundQuotient (n * den) den = n := by
  simp [roundQuotient, Nat.mul_div_cancel n hden, hden]

namespace Binary64

theorem two_zpow (e : Int) : (2 : ℚ) ^ e = 2 ^ e.toNat / 2 ^ (-e).toNat := by
  obtain ⟨k, rfl | rfl⟩ := e.eq_nat_or_neg <;> simp

/-- A mantissa and an exponent as a quotient. -/
theorem ratio_div (m : Nat) (e : Int) :
    ((ratio m e).1 : ℚ) / (ratio m e).2 = m * 2 ^ e := by
  simp only [ratio, Nat.pow_eq, Nat.cast_mul, Nat.cast_pow, Nat.cast_ofNat, two_zpow, mul_div_assoc]

theorem ratio_pos (m : Nat) (e : Int) : 0 < (ratio m e).2 := Nat.pow_pos (by decide)

theorem scaled_nearest (hden : 0 < den) (e : Int) :
    IsNearest (scaled num den e) (num / den / 2 ^ e) := by
  have hscaled : ((num * 2 ^ (-e).toNat : Nat) : ℚ) / (den * 2 ^ e.toNat : Nat) =
      num / den / 2 ^ e := by
    rw [two_zpow]
    push_cast
    field_simp
  rw [← hscaled]
  exact roundQuotient_nearest (Nat.mul_pos hden (Nat.pow_pos (by decide)))

/-- The exponent that is taken leaves 53 bits, or is the least there is. -/
theorem exponentOf_eq (hnum : 0 < num) (hden : 0 < den) :
    ∃ lead : Int, exponentOf num den = max minExponent (lead - 52) ∧ (2 : ℚ) ^ lead ≤ num / den := by
  have hpos : (0 : ℚ) < den := by positivity
  refine ⟨_, rfl, ?_⟩
  simp only [Nat.pow_eq]
  split_ifs with hreached
  · rw [two_zpow, div_le_div_iff₀ (by positivity) hpos, mul_comm]
    exact_mod_cast hreached
  · -- The logarithms say as much of both numbers.
    have hlow : (2 : ℚ) ^ (num.log2 : Int) ≤ num := by
      rw [zpow_natCast]
      exact_mod_cast Nat.log2_self_le hnum.ne'
    have hhigh : (den : ℚ) ≤ 2 ^ ((den.log2 : Int) + 1) := by
      have h : den ≤ 2 ^ (den.log2 + 1) := Nat.le_of_lt Nat.lt_log2_self
      exact_mod_cast h
    rw [le_div_iff₀ hpos]
    calc (2 : ℚ) ^ ((num.log2 : Int) - den.log2 - 1) * den
        ≤ 2 ^ ((num.log2 : Int) - den.log2 - 1) * 2 ^ ((den.log2 : Int) + 1) := by gcongr
      _ = 2 ^ (num.log2 : Int) := by
        rw [← zpow_add₀ two_ne_zero]
        congr 1
        ring
      _ ≤ num := hlow

/-- A value in the range of the numbers that have all 53 bits. -/
structure InRange (q : ℚ) : Prop where
  low : 2 ^ (-1022 : Int) ≤ q
  high : q < 2 ^ (1023 : Int)

/-- The range goes far beyond everything that is counted here. -/
theorem InRange.of_bounds (hlow : 1 / 2 ^ 60 ≤ q) (hhigh : q ≤ 2 ^ 60) : InRange q where
  low :=
    calc (2 : ℚ) ^ (-1022 : Int) ≤ 2 ^ (-60 : Int) := zpow_le_zpow_right₀ one_le_two (by decide)
      _ = 1 / 2 ^ 60 := by norm_num
      _ ≤ q := hlow
  high :=
    calc q ≤ 2 ^ (60 : Int) := by exact_mod_cast hhigh
      _ < 2 ^ (1023 : Int) := zpow_lt_zpow_right₀ one_lt_two (by decide)

theorem lead_le_of_lt {lead k : Int} (hlead : (2 : ℚ) ^ lead ≤ q) (hq : q < 2 ^ k) : lead ≤ k - 1 := by
  have hlt : (2 : ℚ) ^ lead < 2 ^ k := lt_of_le_of_lt hlead hq
  rw [zpow_lt_zpow_iff_right₀ (by norm_num)] at hlt
  omega

/-- The value that a quotient is rounded to. -/
def rounded (num den : Nat) : ℚ := scaled num den (exponentOf num den) * 2 ^ exponentOf num den

theorem ofRatio_eq (negative : Bool) (hnum : 0 < num) (hden : 0 < den)
    (hq : InRange (num / den)) :
    ∃ m e, ofRatio negative num den = .finite negative m e ∧ (m : ℚ) * 2 ^ e = rounded num den := by
  obtain ⟨lead, hexponent, hlead⟩ := exponentOf_eq hnum hden
  have hfits : ¬maxExponent < exponentOf num den + 1 := by
    have hle := lead_le_of_lt hlead hq.high
    simp only [hexponent, maxExponent, minExponent]
    omega
  simp only [ofRatio, rounded, hnum.ne', ↓reduceIte]
  by_cases hcarry : scaled num den (exponentOf num den) = Nat.pow 2 53
  · refine ⟨2 ^ 52, exponentOf num den + 1, ?_, ?_⟩
    · simp only [hcarry, ↓reduceIte, hfits, Nat.pow_eq]
    · rw [hcarry, zpow_add_one₀ two_ne_zero]
      push_cast [Nat.pow_eq]
      ring
  · refine ⟨scaled num den (exponentOf num den), exponentOf num den, ?_, rfl⟩
    have hfits' : ¬maxExponent < exponentOf num den := by omega
    simp only [hcarry, ↓reduceIte, hfits']

/-- Rounding is off by at most the 2^53th part. -/
theorem rounded_near (hnum : 0 < num) (hden : 0 < den) (hq : InRange (num / den)) :
    |rounded num den - num / den| ≤ num / den / 2 ^ 53 := by
  obtain ⟨lead, hexponent, hlead⟩ := exponentOf_eq hnum hden
  have hunit : (2 : ℚ) ^ 52 * 2 ^ exponentOf num den ≤ num / den := by
    rw [← zpow_natCast, ← zpow_add₀ two_ne_zero, hexponent]
    rcases max_choice minExponent (lead - 52) with hmax | hmax
    · rw [hmax]
      exact hq.low
    · rw [hmax]
      simpa using hlead
  have hpos : (0 : ℚ) < 2 ^ exponentOf num den := by positivity
  have hnear : |(scaled num den (exponentOf num den) : ℚ) - num / den / 2 ^ exponentOf num den| ≤ 1 / 2 :=
    (scaled_nearest hden _).near
  rw [rounded]
  generalize (2 : ℚ) ^ exponentOf num den = unit at hunit hpos hnear
  have hscale : (scaled num den (exponentOf num den) : ℚ) * unit - num / den =
      (scaled num den (exponentOf num den) - num / den / unit) * unit := by
    field_simp
  rw [hscale, abs_mul, abs_of_pos hpos]
  calc |(scaled num den (exponentOf num den) : ℚ) - num / den / unit| * unit
      ≤ 1 / 2 * unit := by gcongr
    _ ≤ num / den / 2 ^ 53 := by
      rw [le_div_iff₀ (by positivity)]
      linarith

/-- A binary fraction of at most 53 bits is its own nearest value. -/
theorem rounded_exact {k : Nat} (hnum : 0 < num) (hden : 0 < den) (hshort : n < 2 ^ 53) (hk : k ≤ 1022)
    (heq : (num : ℚ) / den = n / 2 ^ k) : rounded num den = num / den := by
  have hcross : num * 2 ^ k = n * den := by
    rw [div_eq_div_iff (by positivity) (by positivity)] at heq
    exact_mod_cast heq
  have hhigh : (num : ℚ) / den < 2 ^ (53 - k : Int) := by
    rw [heq, zpow_sub₀ two_ne_zero, zpow_natCast, div_lt_div_iff_of_pos_right (by positivity)]
    exact_mod_cast hshort
  obtain ⟨lead, hexponent, hlead⟩ := exponentOf_eq hnum hden
  have hlow : exponentOf num den ≤ -k := by
    have hle := lead_le_of_lt hlead hhigh
    simp only [hexponent, minExponent]
    omega
  obtain ⟨j, hj⟩ : ∃ j : Nat, exponentOf num den = -((k + j : Nat) : Int) :=
    ⟨(-exponentOf num den).toNat - k, by omega⟩
  have hwhole : scaled num den (exponentOf num den) = n * 2 ^ j := by
    have hscale : num * 2 ^ (k + j) = n * 2 ^ j * den := by
      rw [pow_add, ← mul_assoc, hcross]
      ring
    simp only [scaled, hj, neg_neg, Int.toNat_natCast, Int.toNat_neg_natCast, Nat.pow_eq, pow_zero,
      mul_one, hscale, roundQuotient_eq hden]
  rw [rounded, hwhole, hj, heq, zpow_neg, zpow_natCast]
  push_cast
  field_simp
  ring

/-- A value is what another is rounded to: it is off by at most the 2^53th part, and not at all if the other
is a binary fraction of at most 53 bits. -/
structure Rounds (v q : ℚ) : Prop where
  near : |v - q| ≤ q / 2 ^ 53
  exact : ∀ n k : Nat, n < 2 ^ 53 → k ≤ 1022 → q = n / 2 ^ k → v = q

theorem ofRatio_rounds (negative : Bool) (hnum : 0 < num) (hden : 0 < den) (hq : InRange (num / den)) :
    ∃ m e, ofRatio negative num den = .finite negative m e ∧ Rounds (m * 2 ^ e) (num / den) := by
  obtain ⟨m, e, hfinite, hvalue⟩ := ofRatio_eq negative hnum hden hq
  refine ⟨m, e, hfinite, ?_⟩
  rw [hvalue]
  exact ⟨rounded_near hnum hden hq, fun n k hshort hk heq => rounded_exact hnum hden hshort hk heq⟩

/-- The quotient of a value is rounded like any other. -/
theorem divNat_rounds (negative : Bool) {m k : Nat} (hm : 0 < m) (hk : 0 < k)
    (hq : InRange (m * 2 ^ e / k)) :
    ∃ m' e', (finite negative m e).divNat k = .finite negative m' e' ∧
      Rounds (m' * 2 ^ e') (m * 2 ^ e / k) := by
  have hquotient : ((ratio m e).1 : ℚ) / ((ratio m e).2 * k : Nat) = m * 2 ^ e / k := by
    rw [Nat.cast_mul, ← div_div, ratio_div]
  rw [← hquotient] at hq ⊢
  exact ofRatio_rounds negative (Nat.mul_pos hm (Nat.pow_pos (by decide)))
    (Nat.mul_pos (ratio_pos m e) hk) hq

theorem round?_nearest (m : Nat) (e : Int) :
    ∃ n : Nat, (finite false m e).round? = some (n : Int) ∧ IsNearest n (m * 2 ^ e) := by
  refine ⟨roundQuotient (ratio m e).1 (ratio m e).2, rfl, ?_⟩
  rw [← ratio_div]
  exact roundQuotient_nearest (ratio_pos m e)

end Binary64

end PayoutRegistry
