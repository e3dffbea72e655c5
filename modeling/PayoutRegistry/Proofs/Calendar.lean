import PayoutRegistry.Time.Calendar
import Mathlib.Data.Nat.Init
import Mathlib.Tactic.SplitIfs

/-!
Days and dates. The dates of the years 1 to 9999 and the numbers of their days determine each other, and later dates
have larger numbers.
-/
namespace PayoutRegistry.Date

variable {year year' month month' rest left n : Nat} {d e : Date}

/-- The days of a year. -/
def daysInYear (year : Nat) : Nat := if isLeap year then 366 else 365

/-- The days of all years. -/
def allDays : Nat := 3652059

/-- What is counted up step by step covers a step before any later one begins. -/
theorem add_le_of_steps {f g : Nat → Nat} (hstep : ∀ k, 1 ≤ k → f (k + 1) = f k + g k) {m : Nat}
    (hm : 1 ≤ m) (hlt : m < n) : f m + g m ≤ f n := by
  induction n with
  | zero => omega
  | succ k ih =>
    rcases Nat.eq_or_lt_of_le (Nat.le_of_lt_succ hlt) with rfl | hlt
    · exact Nat.le_of_eq (hstep m hm).symm
    · have hnext := hstep k (by omega)
      have hbefore := ih hlt
      omega

/-! ### Months -/

theorem daysInMonth_le : daysInMonth year month ≤ 31 := by
  unfold daysInMonth
  split
  · split <;> decide
  all_goals decide

theorem daysBeforeMonth_succ (h : 1 ≤ month) :
    daysBeforeMonth year (month + 1) = daysBeforeMonth year month + daysInMonth year month := by
  obtain ⟨k, rfl⟩ := Nat.exists_eq_add_of_le' h
  simp [daysBeforeMonth, List.range_succ]

theorem daysBeforeMonth_thirteen : daysBeforeMonth year 13 = daysInYear year := by
  cases hleap : isLeap year <;>
    simp [daysBeforeMonth, daysInYear, daysInMonth, hleap, List.range_succ]

/-- A month is over before a later one begins. -/
theorem daysBeforeMonth_le (h : 1 ≤ month) (hlt : month < month') :
    daysBeforeMonth year month + daysInMonth year month ≤ daysBeforeMonth year month' :=
  add_le_of_steps (fun _ => daysBeforeMonth_succ) h hlt

/-! ### Years -/

theorem isLeap_iff : isLeap year = true ↔ year % 4 = 0 ∧ (year % 100 ≠ 0 ∨ year % 400 = 0) := by
  simp only [isLeap, Bool.and_eq_true, Bool.or_eq_true, beq_iff_eq, bne_iff_ne]

theorem daysBeforeYear_succ (h : 1 ≤ year) :
    daysBeforeYear (year + 1) = daysBeforeYear year + daysInYear year := by
  obtain ⟨past, rfl⟩ := Nat.exists_eq_add_of_le' h
  -- A quotient grows in the years that its divisor divides.
  have hgrow (k : Nat) : (past + 1) / k = past / k + if (past + 1) % k = 0 then 1 else 0 := by
    rw [Nat.succ_div]
    simp only [Nat.dvd_iff_mod_eq_zero]
  have hcentury : (past + 1) % 400 = 0 → (past + 1) % 100 = 0 := by omega
  have hfour : (past + 1) % 100 = 0 → (past + 1) % 4 = 0 := by omega
  have hle : past / 100 ≤ past / 4 := by omega
  simp only [daysBeforeYear, daysInYear, isLeap_iff, Nat.add_sub_cancel, hgrow]
  split_ifs <;> omega

/-- A year is over before a later one begins. -/
theorem daysBeforeYear_le (h : 1 ≤ year) (hlt : year < year') :
    daysBeforeYear year + daysInYear year ≤ daysBeforeYear year' :=
  add_le_of_steps (fun _ => daysBeforeYear_succ) h hlt

/-! ### From dates to days -/

theorem isValid_iff : d.isValid = true ↔ 1 ≤ d.year ∧ d.year ≤ maxYear ∧ 1 ≤ d.month ∧ d.month ≤ 12 ∧
    1 ≤ d.day ∧ d.day ≤ daysInMonth d.year d.month := by
  simp only [isValid, Bool.and_eq_true, decide_eq_true_eq, and_assoc]

/-- The days of a year up to a date do not fill it. -/
theorem daysInto_lt (h : d.isValid = true) :
    daysBeforeMonth d.year d.month + (d.day - 1) < daysInYear d.year := by
  obtain ⟨-, -, hmonth, hmonths, hday, hdays⟩ := isValid_iff.mp h
  have hover : daysBeforeMonth d.year d.month + daysInMonth d.year d.month ≤ daysBeforeMonth d.year 13 :=
    daysBeforeMonth_le hmonth (by omega)
  rw [daysBeforeMonth_thirteen] at hover
  omega

theorem dayNumber_lt (h : d.isValid = true) : d.dayNumber < allDays := by
  obtain ⟨hyear, hyears, -⟩ := isValid_iff.mp h
  have hinto := daysInto_lt h
  have hover : daysBeforeYear d.year + daysInYear d.year ≤ daysBeforeYear (maxYear + 1) :=
    daysBeforeYear_le hyear (by omega)
  have hall : daysBeforeYear (maxYear + 1) = allDays := rfl
  simp only [dayNumber]
  omega

/-- One date is before another: in an earlier year, or in an earlier month of the year, or on an earlier day of the
month. -/
def IsBefore (d e : Date) : Prop :=
  d.year < e.year ∨ d.year = e.year ∧ (d.month < e.month ∨ d.month = e.month ∧ d.day < e.day)

theorem dayNumber_lt_of_isBefore (hd : d.isValid = true) (h : d.IsBefore e) :
    d.dayNumber < e.dayNumber := by
  obtain ⟨hyear, -, hmonth, -, hday, hdays⟩ := isValid_iff.mp hd
  rcases h with hlt | ⟨hsame, hlt | ⟨hsame', hlt⟩⟩
  · have hinto := daysInto_lt hd
    have hover := daysBeforeYear_le hyear hlt
    simp only [dayNumber]
    omega
  · have hover : daysBeforeMonth d.year d.month + daysInMonth d.year d.month ≤ daysBeforeMonth d.year e.month :=
      daysBeforeMonth_le hmonth hlt
    simp only [dayNumber, ← hsame]
    omega
  · simp only [dayNumber, ← hsame, ← hsame']
    omega

theorem isBefore_total (d e : Date) : d.IsBefore e ∨ d = e ∨ e.IsBefore d := by
  obtain ⟨y, m, k⟩ := d
  obtain ⟨y', m', k'⟩ := e
  simp only [IsBefore, mk.injEq]
  omega

theorem dayNumber_inj (hd : d.isValid = true) (he : e.isValid = true) :
    d.dayNumber = e.dayNumber ↔ d = e := by
  constructor
  · intro h
    rcases isBefore_total d e with hlt | heq | hlt
    · have hbefore := dayNumber_lt_of_isBefore hd hlt
      omega
    · exact heq
    · have hbefore := dayNumber_lt_of_isBefore he hlt
      omega
  · rintro rfl
    rfl

/-! ### From days to dates -/

/-- The month that the days of a year lead to, counted from one of its months on. -/
theorem monthOf_spec (hmonth : 1 ≤ month) (hleft : month + left = 12)
    (hrest : daysBeforeMonth year month + rest < daysInYear year) :
    ∃ m k, monthOf year rest left month = (m, k) ∧ 1 ≤ m ∧ m ≤ 12 ∧ 1 ≤ k ∧ k ≤ daysInMonth year m ∧
      daysBeforeMonth year m + (k - 1) = daysBeforeMonth year month + rest := by
  induction left generalizing month rest with
  | zero =>
    obtain rfl : month = 12 := by omega
    have hyear : daysInYear year = daysBeforeMonth year 12 + daysInMonth year 12 := by
      rw [← daysBeforeMonth_thirteen, daysBeforeMonth_succ (by decide)]
    exact ⟨12, rest + 1, rfl, by omega, by omega, by omega, by omega, by omega⟩
  | succ left ih =>
    rw [monthOf]
    split
    · exact ⟨month, rest + 1, rfl, by omega, by omega, by omega, by omega, by omega⟩
    · -- The days of this month are spent, and the others lead on from the next one.
      have hnext : daysBeforeMonth year (month + 1) = daysBeforeMonth year month + daysInMonth year month :=
        daysBeforeMonth_succ hmonth
      have hrest : daysBeforeMonth year (month + 1) + (rest - daysInMonth year month) < daysInYear year := by
        omega
      obtain ⟨m, k, heq, hm, hms, hk, hks, hdays⟩ := ih (by omega) (by omega) hrest
      exact ⟨m, k, heq, hm, hms, hk, hks, by omega⟩

/-! Years are counted off in cycles of 400, 100, 4 and 1. -/

section Cycles

variable {a b c k : Nat}

theorem daysBeforeYear_cycles (hb : b ≤ 3) (hc : c ≤ 24) (hk : k ≤ 3) :
    daysBeforeYear (400 * a + 100 * b + 4 * c + k + 1) = 146097 * a + 36524 * b + 1461 * c + 365 * k := by
  have h4 : (400 * a + 100 * b + 4 * c + k) / 4 = 100 * a + 25 * b + c := by omega
  have h100 : (400 * a + 100 * b + 4 * c + k) / 100 = 4 * a + b := by omega
  have h400 : (400 * a + 100 * b + 4 * c + k) / 400 = a := by omega
  simp only [daysBeforeYear, Nat.add_sub_cancel, h4, h100, h400]
  omega

/-- The last year of a cycle of four is longer, unless the cycle is the last of a hundred years that are not the last
of four hundred. -/
theorem daysInYear_cycles (hb : b ≤ 3) (hc : c ≤ 24) (hk : k ≤ 3) :
    daysInYear (400 * a + 100 * b + 4 * c + k + 1) = if k = 3 ∧ (c ≠ 24 ∨ b = 3) then 366 else 365 := by
  have hleap : isLeap (400 * a + 100 * b + 4 * c + k + 1) = true ↔ k = 3 ∧ (c ≠ 24 ∨ b = 3) := by
    rw [isLeap_iff]
    omega
  simp only [daysInYear, hleap]

end Cycles

/-- Some days of a year remain when the years before it have been counted off. -/
theorem year_spec (n : Nat) : ∃ year rest, 1 ≤ year ∧ rest < daysInYear year ∧ daysBeforeYear year + rest = n ∧
    ofDayNumber n = { year, month := (monthOf year rest 11 1).1, day := (monthOf year rest 11 1).2 } := by
  obtain ⟨a, ha⟩ : ∃ a, a = n / 146097 := ⟨_, rfl⟩
  obtain ⟨b, hb⟩ : ∃ b, b = min (n % 146097 / 36524) 3 := ⟨_, rfl⟩
  obtain ⟨r, hr⟩ : ∃ r, r = n % 146097 - b * 36524 := ⟨_, rfl⟩
  obtain ⟨c, hc⟩ : ∃ c, c = r / 1461 := ⟨_, rfl⟩
  obtain ⟨k, hk⟩ : ∃ k, k = min (r % 1461 / 365) 3 := ⟨_, rfl⟩
  have hrest : r < 36524 ∨ b = 3 ∧ r = 36524 := by omega
  have hb3 : b ≤ 3 := by omega
  have hc24 : c ≤ 24 := by omega
  have hk3 : k ≤ 3 := by omega
  refine ⟨400 * a + 100 * b + 4 * c + k + 1, r % 1461 - k * 365, by omega, ?_, ?_, ?_⟩
  · rw [daysInYear_cycles hb3 hc24 hk3]
    split <;> omega
  · rw [daysBeforeYear_cycles hb3 hc24 hk3]
    omega
  · simp only [ofDayNumber, ← ha, ← hb, ← hr, ← hc, ← hk]

theorem ofDayNumber_spec (h : n < allDays) : (ofDayNumber n).isValid = true ∧ (ofDayNumber n).dayNumber = n := by
  obtain ⟨year, rest, hyear, hrest, hn, hdate⟩ := year_spec n
  have hnone : daysBeforeMonth year 1 = 0 := rfl
  obtain ⟨m, k, hmonth, hm, hms, hk, hks, hdays⟩ :=
    monthOf_spec (Nat.le_refl 1) (Nat.add_comm 1 11) (by rwa [hnone, Nat.zero_add])
  have hyears : year ≤ maxYear := by
    refine Nat.le_of_not_lt fun hlate => ?_
    have hover : daysBeforeYear maxYear + daysInYear maxYear ≤ daysBeforeYear year :=
      daysBeforeYear_le (by decide) hlate
    have hall : daysBeforeYear maxYear + daysInYear maxYear = allDays := rfl
    omega
  rw [hmonth] at hdate
  rw [hdate, isValid_iff]
  refine ⟨⟨hyear, hyears, hm, hms, hk, hks⟩, ?_⟩
  simp only [dayNumber]
  omega

end PayoutRegistry.Date
