import PayoutRegistry.Proofs.Calendar
import PayoutRegistry.Proofs.Instants
import Mathlib.Algebra.Group.Nat.Defs

/-!
The texts under which times are kept. Every part of a time has its fixed width and no part is left out, so the order
of the texts is the order of the times.
-/
namespace PayoutRegistry.Moment

variable {width n m : Nat} {s t : Instant}

/-! ### Numbers of a fixed width -/

/-- The last digits of a number, `width` of them. -/
def lastDigits : Nat → Nat → List Char
  | 0, _ => []
  | width + 1, n => lastDigits width (n / 10) ++ [Nat.digitChar (n % 10)]

theorem length_lastDigits (width n : Nat) : (lastDigits width n).length = width := by
  induction width generalizing n with
  | zero => rfl
  | succ width ih => rw [lastDigits, List.length_append, ih, List.length_singleton]

theorem lastDigits_zero (width : Nat) : lastDigits width 0 = List.replicate width '0' := by
  induction width with
  | zero => rfl
  | succ width ih =>
    rw [lastDigits, Nat.zero_div, ih, List.replicate_succ']
    rfl

theorem toList_padded (hwidth : 0 < width) (hn : n < 10 ^ width) :
    (padded width n).toList = lastDigits width n := by
  have hpadded (width n : Nat) : (padded width n).toList =
      List.replicate (width - (Nat.toDigits 10 n).length) '0' ++ Nat.toDigits 10 n := by
    simp only [padded, String.toList_append, String.toList_ofList, Nat.toString_eq_repr, Nat.toList_repr,
      ← String.length_toList]
  rw [hpadded]
  induction width generalizing n with
  | zero => omega
  | succ width ih =>
    by_cases hsmall : n < 10
    · rw [Nat.toDigits_of_lt_base hsmall, lastDigits, Nat.div_eq_of_lt hsmall, Nat.mod_eq_of_lt hsmall,
        lastDigits_zero, List.length_singleton, Nat.add_sub_cancel]
    · have hquot : n / 10 < 10 ^ width := by
        rw [Nat.pow_succ] at hn
        omega
      have hwidth : 0 < width := by
        rcases Nat.eq_zero_or_pos width with rfl | hpos
        · omega
        · exact hpos
      rw [Nat.toDigits_of_base_le (by decide) (Nat.not_lt.mp hsmall), lastDigits, ← ih hwidth hquot,
        List.length_append, List.length_singleton, Nat.add_sub_add_right, List.append_assoc]

/-- What differs within the same width is not turned round by what follows. -/
theorem append_lt_append {a b x y : List Char} (h : a < b) (hlength : a.length = b.length) :
    a ++ x < b ++ y := by
  induction a generalizing b with
  | nil =>
    cases b with
    | nil => exact absurd h (List.lt_irrefl [])
    | cons d b => cases hlength
  | cons c a ih =>
    cases b with
    | nil => cases hlength
    | cons d b =>
      rw [List.cons_append, List.cons_append, List.cons_lt_cons_iff]
      rcases List.cons_lt_cons_iff.mp h with hlt | ⟨rfl, hlt⟩
      · exact .inl hlt
      · exact .inr ⟨rfl, ih hlt (Nat.succ.inj hlength)⟩

theorem digitChar_lt (h : n < m) (hm : m < 10) : Nat.digitChar n < Nat.digitChar m := by
  have hall : ∀ i j : Fin 10, i < j → Nat.digitChar i < Nat.digitChar j := by decide
  exact hall ⟨n, by omega⟩ ⟨m, hm⟩ h

theorem lastDigits_lt (h : n < m) (hm : m < 10 ^ width) : lastDigits width n < lastDigits width m := by
  induction width generalizing n m with
  | zero => omega
  | succ width ih =>
    rw [lastDigits, lastDigits]
    by_cases hquot : n / 10 < m / 10
    · have hbound : m / 10 < 10 ^ width := by
        rw [Nat.pow_succ] at hm
        omega
      exact append_lt_append (ih hquot hbound) (by rw [length_lastDigits, length_lastDigits])
    · have hsame : n / 10 = m / 10 := by omega
      rw [hsame]
      refine List.append_left_lt (List.cons_lt_cons_iff.mpr (.inl ?_))
      exact digitChar_lt (by omega) (Nat.mod_lt _ (by decide))

/-- A number of a fixed width decides, and what follows it decides where it is the same. -/
theorem padded_lt {x y : String} (hwidth : 0 < width) (hn : n < 10 ^ width) (hm : m < 10 ^ width)
    (h : n < m ∨ n = m ∧ x < y) : padded width n ++ x < padded width m ++ y := by
  change (padded width n ++ x).toList < (padded width m ++ y).toList
  rw [String.toList_append, String.toList_append, toList_padded hwidth hn, toList_padded hwidth hm]
  rcases h with hlt | ⟨rfl, hlt⟩
  · exact append_lt_append (lastDigits_lt hlt hm) (by rw [length_lastDigits, length_lastDigits])
  · exact List.append_left_lt hlt

theorem append_lt {x y : String} (sep : String) (h : x < y) : sep ++ x < sep ++ y := by
  change (sep ++ x).toList < (sep ++ y).toList
  rw [String.toList_append, String.toList_append]
  exact List.append_left_lt h

theorem padded_lt_padded (hwidth : 0 < width) (hm : m < 10 ^ width) (h : n < m) : padded width n < padded width m := by
  change (padded width n).toList < (padded width m).toList
  rw [toList_padded hwidth (Nat.lt_trans h hm), toList_padded hwidth hm]
  exact lastDigits_lt h hm

/-! ### Dates and times of day -/

theorem widths_of_isValid {d : Date} (h : d.isValid = true) :
    d.year < 10 ^ 4 ∧ d.month < 10 ^ 2 ∧ d.day < 10 ^ 2 := by
  obtain ⟨-, hyear, -, hmonth, -, hday⟩ := Date.isValid_iff.mp h
  have hlength : Date.daysInMonth d.year d.month ≤ 31 := Date.daysInMonth_le
  simp only [Date.maxYear] at hyear
  omega

theorem dateText_lt {x y : String}
    (h : s.micros / microsPerDay < t.micros / microsPerDay ∨
      s.micros / microsPerDay = t.micros / microsPerDay ∧ x < y) :
    dateText s ++ x < dateText t ++ y := by
  have hdays (r : Instant) : r.micros / microsPerDay < Date.allDays :=
    Nat.div_lt_of_lt_mul (Nat.mul_comm _ _ ▸ r.micros_lt)
  obtain ⟨hd, hnumber⟩ := Date.ofDayNumber_spec (hdays s)
  obtain ⟨he, hnumber'⟩ := Date.ofDayNumber_spec (hdays t)
  simp only [dateText, String.append_assoc]
  rw [← hnumber, ← hnumber'] at h
  generalize Date.ofDayNumber (s.micros / microsPerDay) = d at *
  generalize Date.ofDayNumber (t.micros / microsPerDay) = e at *
  have horder : d.IsBefore e ∨ d = e ∧ x < y := by
    rcases h with hlt | ⟨heq, hxy⟩
    · rcases Date.isBefore_total d e with hbefore | rfl | hafter
      · exact .inl hbefore
      · exact absurd hlt (Nat.lt_irrefl _)
      · exact absurd (Date.dayNumber_lt_of_isBefore he hafter) (Nat.not_lt.mpr (Nat.le_of_lt hlt))
    · exact .inr ⟨(Date.dayNumber_inj hd he).mp heq, hxy⟩
  obtain ⟨hyear, hmonth, hday⟩ := widths_of_isValid hd
  obtain ⟨hyear', hmonth', hday'⟩ := widths_of_isValid he
  rcases horder with (hlt | ⟨hsame, hlt | ⟨hsame', hlt⟩⟩) | ⟨rfl, hxy⟩
  · exact padded_lt (by decide) hyear hyear' (.inl hlt)
  · refine padded_lt (by decide) hyear hyear' (.inr ⟨hsame, append_lt "-" ?_⟩)
    exact padded_lt (by decide) hmonth hmonth' (.inl hlt)
  · refine padded_lt (by decide) hyear hyear' (.inr ⟨hsame, append_lt "-" ?_⟩)
    refine padded_lt (by decide) hmonth hmonth' (.inr ⟨hsame', append_lt "-" ?_⟩)
    exact padded_lt (by decide) hday hday' (.inl hlt)
  · exact append_lt _ (append_lt _ (append_lt _ (append_lt _ (append_lt _ hxy))))

theorem clockText_lt {x y : String}
    (h : s.micros % microsPerDay / microsPerSecond < t.micros % microsPerDay / microsPerSecond ∨
      s.micros % microsPerDay / microsPerSecond = t.micros % microsPerDay / microsPerSecond ∧ x < y) :
    clockText s ++ x < clockText t ++ y := by
  have hday (r : Instant) : r.micros % microsPerDay / microsPerSecond < 86400 :=
    Nat.div_lt_of_lt_mul (Nat.mul_comm 86400 _ ▸ Nat.mod_lt _ (by decide))
  have hs := hday s
  have ht := hday t
  simp only [clockText, String.append_assoc]
  generalize s.micros % microsPerDay / microsPerSecond = n at *
  generalize t.micros % microsPerDay / microsPerSecond = m at *
  rcases h with hlt | ⟨rfl, hxy⟩
  · have horder : n / 3600 < m / 3600 ∨ n / 3600 = m / 3600 ∧ (n / 60 % 60 < m / 60 % 60 ∨
        n / 60 % 60 = m / 60 % 60 ∧ n % 60 < m % 60) := by omega
    have hhour : n / 3600 < 10 ^ 2 ∧ m / 3600 < 10 ^ 2 := by omega
    have hminute : n / 60 % 60 < 10 ^ 2 ∧ m / 60 % 60 < 10 ^ 2 := by omega
    have hsecond : n % 60 < 10 ^ 2 ∧ m % 60 < 10 ^ 2 := by omega
    rcases horder with hlt | ⟨hsame, hlt | ⟨hsame', hlt⟩⟩
    · exact padded_lt (by decide) hhour.1 hhour.2 (.inl hlt)
    · refine padded_lt (by decide) hhour.1 hhour.2 (.inr ⟨hsame, append_lt ":" ?_⟩)
      exact padded_lt (by decide) hminute.1 hminute.2 (.inl hlt)
    · refine padded_lt (by decide) hhour.1 hhour.2 (.inr ⟨hsame, append_lt ":" ?_⟩)
      refine padded_lt (by decide) hminute.1 hminute.2 (.inr ⟨hsame', append_lt ":" ?_⟩)
      exact padded_lt (by decide) hsecond.1 hsecond.2 (.inl hlt)
  · exact append_lt _ (append_lt _ (append_lt _ (append_lt _ (append_lt _ hxy))))

/-! ### The order of the texts -/

theorem storedText_lt (h : s < t) : storedText s < storedText t := by
  have hlt : s.micros < t.micros := h
  have hfraction (r : Instant) : r.micros % microsPerSecond < 10 ^ 6 := Nat.mod_lt _ (by decide)
  simp only [storedText, String.append_assoc]
  -- The times differ in their days, or else in the seconds of the day, or else within the second.
  by_cases hday : s.micros / microsPerDay < t.micros / microsPerDay
  · exact dateText_lt (.inl hday)
  · refine dateText_lt (.inr ⟨?_, append_lt " " ?_⟩)
    · exact Nat.le_antisymm (Nat.div_le_div_right (Nat.le_of_lt hlt)) (Nat.not_lt.mp hday)
    · by_cases hsecond : s.micros % microsPerDay / microsPerSecond < t.micros % microsPerDay / microsPerSecond
      · exact clockText_lt (.inl hsecond)
      · have hwithin : s.micros % microsPerDay / microsPerSecond = t.micros % microsPerDay / microsPerSecond ∧
            s.micros % microsPerSecond < t.micros % microsPerSecond := by
          simp only [microsPerDay, microsPerSecond] at *
          omega
        refine clockText_lt (.inr ⟨hwithin.1, append_lt "." ?_⟩)
        exact padded_lt_padded (by decide) (hfraction t) hwithin.2

/-- Texts under which times are kept are in the order of the times. -/
theorem storedText_le_iff : storedText s ≤ storedText t ↔ s ≤ t := by
  constructor
  · intro hle
    refine Nat.le_of_not_lt fun hlt => ?_
    exact String.not_lt.mpr hle (storedText_lt hlt)
  · intro hle
    rcases Nat.lt_or_eq_of_le hle with hlt | heq
    · exact Std.le_of_lt (storedText_lt hlt)
    · obtain rfl := Instant.micros_inj.mp heq
      exact String.le_refl _

end PayoutRegistry.Moment
