import PayoutRegistry.Proofs.Rounding
import PayoutRegistry.Proofs.Verification

/-!
How late a code comes, as it is told to the user: the minutes since its deadline, although they are found by
two divisions that are both rounded. For less than 2^52 microseconds the two errors together are smaller than
the step from a half to the next microsecond, and halves themselves are divided without an error.
-/
namespace PayoutRegistry

variable {d n half : Nat} {t : ℚ}

/-! ### Halves and the values beside them -/

theorem abs_sub_quotient (hhalf : 0 < half) :
    |(n : ℚ) - d / (2 * half)| = (|(2 * half * n - d : ℤ)| : ℤ) / (2 * half) := by
  have hpos : (0 : ℚ) < 2 * half := by positivity
  have hscale : (n : ℚ) - d / (2 * half) = (2 * half * n - d) / (2 * half) := by field_simp
  rw [hscale, abs_div, abs_of_pos hpos]
  push_cast
  rfl

theorem isNearest_iff (hhalf : 0 < half) : IsNearest n (d / (2 * half)) ↔
    |(2 * half * n - d : ℤ)| ≤ half ∧ (|(2 * half * n - d : ℤ)| = half → Even n) := by
  have hpos : (0 : ℚ) < 2 * half := by positivity
  have hbound : (half : ℚ) / (2 * half) = 1 / 2 := by field_simp
  have hnear : |(n : ℚ) - d / (2 * half)| ≤ 1 / 2 ↔ |(2 * half * n - d : ℤ)| ≤ half := by
    rw [abs_sub_quotient hhalf, ← hbound, div_le_div_iff_of_pos_right hpos]
    exact_mod_cast Iff.rfl
  have htie : |(n : ℚ) - d / (2 * half)| = 1 / 2 ↔ |(2 * half * n - d : ℤ)| = half := by
    rw [abs_sub_quotient hhalf, ← hbound, div_left_inj' hpos.ne']
    exact_mod_cast Iff.rfl
  exact ⟨fun h => ⟨hnear.mp h.near, fun heq => h.even (htie.mpr heq)⟩,
    fun ⟨hle, heven⟩ => ⟨hnear.mpr hle, fun heq => heven (htie.mp heq)⟩⟩

/-- A value close to the one that is meant has the same nearest natural, if halves are met exactly. -/
theorem IsNearest.of_close (hhalf : 0 < half) (hn : IsNearest n t)
    (hclose : |t - d / (2 * half)| < 1 / (2 * half))
    (hexact : ∀ j : Nat, d = half * j → t = d / (2 * half)) : IsNearest n (d / (2 * half)) := by
  have hpos : (0 : ℚ) < 2 * half := by positivity
  have hlt : |(2 * half * n - d : ℤ)| < half + 1 := by
    have hsum : |(n : ℚ) - d / (2 * half)| < 1 / 2 + 1 / (2 * half) :=
      calc |(n : ℚ) - d / (2 * half)| ≤ |(n : ℚ) - t| + |t - d / (2 * half)| := abs_sub_le ..
        _ < 1 / 2 + 1 / (2 * half) := add_lt_add_of_le_of_lt hn.near hclose
    have hunits : (1 / 2 + 1 / (2 * half) : ℚ) = (half + 1) / (2 * half) := by field_simp
    rw [abs_sub_quotient hhalf, hunits, div_lt_div_iff_of_pos_right hpos] at hsum
    exact_mod_cast hsum
  refine (isNearest_iff hhalf).mpr ⟨by omega, fun htie => hn.even ?_⟩
  have hodd : ∃ j : Nat, d = half * j := by
    rcases abs_eq (Int.natCast_nonneg half) |>.mp htie with h | h
    · obtain ⟨k, rfl⟩ : ∃ k, n = k + 1 := by
        refine Nat.exists_eq_succ_of_ne_zero ?_
        rintro rfl
        push_cast at h
        omega
      refine ⟨2 * k + 1, ?_⟩
      zify
      push_cast at h
      linarith
    · refine ⟨2 * n + 1, ?_⟩
      zify
      linarith
  obtain ⟨j, hj⟩ := hodd
  rw [hexact j hj, abs_sub_quotient hhalf, htie]
  push_cast
  field_simp

/-! ### Minutes -/

/-- Two divisions, one after the other, as each of them is rounded. -/
theorem Binary64.Rounds.twice {x v k : ℚ} (hk : 0 < k) (hv : Rounds v x) (ht : Rounds t (v / k)) :
    |t - x / k| ≤ x / k * (2 / 2 ^ 53 + 1 / 2 ^ 106) := by
  have hnear : |v / k - x / k| ≤ x / k / 2 ^ 53 := by
    rw [← sub_div, abs_div, abs_of_pos hk, div_right_comm]
    gcongr
    exact hv.near
  have hmore : v / k ≤ x / k + x / k / 2 ^ 53 := by
    linarith [(abs_le.mp hnear).2]
  calc |t - x / k| ≤ |t - v / k| + |v / k - x / k| := abs_sub_le ..
    _ ≤ v / k / 2 ^ 53 + x / k / 2 ^ 53 := add_le_add ht.near hnear
    _ ≤ (x / k + x / k / 2 ^ 53) / 2 ^ 53 + x / k / 2 ^ 53 := by gcongr
    _ = x / k * (2 / 2 ^ 53 + 1 / 2 ^ 106) := by ring

open Binary64 in
/-- The minutes are rounded from a value that is close to the one that is meant, and that is this one where
it lies in the middle between two whole numbers. -/
theorem Code.minutesIn_nearest (hd : 0 < d) (hlt : d < 2 ^ 52) :
    ∃ n : Nat, Code.minutesIn d = n ∧ IsNearest n (d / (2 * (30000000 : Nat))) := by
  have hlow : (1 : ℚ) ≤ d := by exact_mod_cast hd
  have hhigh : (d : ℚ) + 1 ≤ 2 ^ 52 := by exact_mod_cast hlt
  have hsecond : (microsPerSecond : ℚ) = 1000000 := by norm_num [microsPerSecond]
  obtain ⟨m, e, hs, hv⟩ := ofRatio_rounds false hd (by decide : 0 < microsPerSecond) (by
    rw [hsecond]
    exact .of_bounds (by norm_num; linarith) (by norm_num at hhigh ⊢; linarith))
  rw [hsecond] at hv
  obtain ⟨hunder, hover⟩ := abs_le.mp hv.near
  have hm : 0 < m := by
    refine Nat.pos_of_ne_zero ?_
    rintro rfl
    norm_num at hunder
    linarith
  obtain ⟨m', e', ht, hv'⟩ := divNat_rounds false hm (by decide : 0 < 60) (e := e) (.of_bounds
    (by norm_num at hunder ⊢; linarith) (by norm_num at hover hhigh ⊢; linarith))
  obtain ⟨n, hn, hnearest⟩ := round?_nearest m' e'
  have hminutes : (d : ℚ) / (2 * (30000000 : Nat)) = d / 1000000 / (60 : Nat) := by
    rw [div_div]
    norm_num
  refine ⟨n, ?_, hnearest.of_close (by decide) ?_ ?_⟩
  · have hsign : decide ((d : ℤ) < 0) = false := by simp
    rw [minutesIn, hsign, Int.natAbs_natCast, hs, ht, hn]
    rfl
  · rw [hminutes]
    refine lt_of_le_of_lt (hv.twice (by norm_num) hv') ?_
    norm_num at hhigh ⊢
    linarith
  · -- A half of a minute is a whole number of seconds, and a binary fraction of minutes.
    intro j hj
    have hd' : (d : ℚ) = 30000000 * j := by exact_mod_cast hj
    have hseconds : (m : ℚ) * 2 ^ e = d / 1000000 :=
      hv.exact (30 * j) 0 (by omega) (by decide) (by
        push_cast
        rw [hd']
        ring)
    rw [hminutes, ← hseconds]
    refine hv'.exact j 1 (by omega) (by decide) ?_
    rw [hseconds, hd']
    push_cast
    ring

/-- The minutes that are told, in microseconds: they are off by half a minute at most, and even where they
are off by as much. -/
theorem Code.minutesIn_spec (hd : 0 < d) (hlt : d < 2 ^ 52) :
    |60000000 * Code.minutesIn d - d| ≤ 30000000 ∧
      (|60000000 * Code.minutesIn d - d| = 30000000 → Even (Code.minutesIn d)) ∧
      0 ≤ Code.minutesIn d := by
  obtain ⟨n, hn, hnearest⟩ := Code.minutesIn_nearest hd hlt
  obtain ⟨hnear, heven⟩ := (isNearest_iff (by decide)).mp hnearest
  have hunits : (2 * (30000000 : Nat) * n - d : ℤ) = 60000000 * n - d := by norm_num
  rw [hunits] at hnear heven
  rw [hn]
  exact ⟨hnear, fun htie => (Int.even_coe_nat n).mpr (heven htie), Int.natCast_nonneg n⟩

/-- More microseconds are not fewer minutes. -/
theorem Code.minutesIn_mono {d' : Nat} (hd : 0 < d) (hle : d ≤ d') (hlt : d' < 2 ^ 52) :
    Code.minutesIn d ≤ Code.minutesIn d' := by
  obtain ⟨hnear, heven, -⟩ := Code.minutesIn_spec hd (Nat.lt_of_le_of_lt hle hlt)
  obtain ⟨hnear', heven', -⟩ := Code.minutesIn_spec (Nat.lt_of_lt_of_le hd hle) hlt
  by_contra hless
  rw [abs_le] at hnear hnear'
  -- Both would be halves of the same value, and both even.
  have hnext : Code.minutesIn d = Code.minutesIn d' + 1 := by omega
  have hodd := heven (by rw [abs_eq (by decide)]; omega)
  have hodd' := heven' (by rw [abs_eq (by decide)]; omega)
  rw [hnext, Int.even_add_one] at hodd
  exact hodd hodd'

/-! ### Calls -/

section Calls

variable {s : Store} {a : Account} {submitted : String} {t : Instant} {c : Circumstances}

/-- Whoever comes too late with the right code is told by how much. -/
theorem verify_late (hs : s.ledger.Sound) (ha : a ∈ s.ledger.accounts) (waiting : a.isVerified = false)
    (code : a.code = some submitted) (written : submitted ≠ "") (due : a.deadline = some t)
    (hlock : c.mishaps .lock = none) (late : t < c.now) :
    (Operation.verify c a.owner a.id submitted s).result =
      .error (.refusal (.codeExpired (some (Code.minutesIn (c.now.since t))))) := by
  have past : Code.isPast a.deadline c.now = true := isPast_iff.mpr (.inr ⟨t, due, late⟩)
  have hrefused := decideVerify_error_iff.mpr
    (.expired (Ledger.owned?_of_mem hs ha) waiting code written past)
  rw [due] at hrefused
  rw [Operation.verify, ofAttempt_result, map_eq_error]
  exact Store.attempt_refused hlock hrefused

theorem since_eq (late : t < c.now) :
    ∃ d : Nat, 0 < d ∧ c.now.since t = d ∧ c.now.micros = t.micros + d := by
  have hlt : t.micros < c.now.micros := late
  refine ⟨c.now.micros - t.micros, ?_, ?_, ?_⟩
  · omega
  · simp only [Instant.since]
    omega
  · omega

/-- A hundred years are no longer than that. -/
def century : Nat := 36525 * microsPerDay

/-- Whoever comes with the right code after its deadline, but no more than a hundred years, is told the nearest
whole number of minutes, and the even one of two that are equally near. It is not negative, and whoever comes
later is not told a smaller one. -/
theorem lateness_to_nearest_minute (s : Store) (a : Account) (submitted : String) (t : Instant)
    (hs : s.ledger.Sound) (ha : a ∈ s.ledger.accounts) (waiting : a.isVerified = false)
    (code : a.code = some submitted) (written : submitted ≠ "") (due : a.deadline = some t)
    (c : Circumstances) (hlock : c.mishaps .lock = none) (late : t < c.now)
    (recent : c.now.since t ≤ century) :
    let told (c : Circumstances) (m : Int) :=
      (Operation.verify c a.owner a.id submitted s).result = .error (.refusal (.codeExpired (some m)))
    ∃ m : Int, told c m ∧
      |60000000 * m - c.now.since t| ≤ 30000000 ∧
      (|60000000 * m - c.now.since t| = 30000000 → Even m) ∧
      0 ≤ m ∧
      ∀ c' : Circumstances, c'.mishaps .lock = none → c.now ≤ c'.now → c'.now.since t ≤ century →
        ∃ m', told c' m' ∧ m ≤ m' := by
  intro told
  have hcentury : century < 2 ^ 52 := by decide
  obtain ⟨d, hd, hsince, hnow⟩ := since_eq late
  rw [hsince] at recent ⊢
  have hlt : d < 2 ^ 52 := by omega
  obtain ⟨hnear, heven, hzero⟩ := Code.minutesIn_spec hd hlt
  have htold := verify_late hs ha waiting code written due hlock late
  rw [hsince] at htold
  refine ⟨Code.minutesIn d, htold, hnear, heven, hzero, ?_⟩
  intro c' hlock' hle recent'
  have hle' : c.now.micros ≤ c'.now.micros := hle
  have late' : t < c'.now := Nat.lt_of_lt_of_le late hle
  obtain ⟨d', hd', hsince', hnow'⟩ := since_eq late'
  have htold' := verify_late hs ha waiting code written due hlock' late'
  rw [hsince'] at htold' recent'
  exact ⟨_, htold', Code.minutesIn_mono hd (by omega) (by omega)⟩

/-- A store with one account, which waits for its code; the deadline is the start of all years. -/
def overdue : Store :=
  { ledger := { users := [], accounts :=
      [{ rowOf 2 "0123456789" false with code := some "123456", deadline := some default }] },
    serial := 2 }

/-- Two minutes and a half, and a microsecond more. -/
def atHalf : Circumstances := { (default : Circumstances) with now := ⟨150000000, by decide⟩ }

def pastHalf : Circumstances := { (default : Circumstances) with now := ⟨150000001, by decide⟩ }

/-- The half goes to the even number of minutes, and a microsecond later it is the other one. -/
theorem half_minutes_told :
    (Operation.verify atHalf (.ofSerial 1) (.ofSerial 2) "123456" overdue).result =
        .error (.refusal (.codeExpired (some 2))) ∧
      (Operation.verify pastHalf (.ofSerial 1) (.ofSerial 2) "123456" overdue).result =
        .error (.refusal (.codeExpired (some 3))) := by
  have hs : overdue.ledger.Sound := ⟨by decide, by decide⟩
  have hlate := lateness_to_nearest_minute overdue _ "123456" default hs List.mem_cons_self rfl rfl
    (by decide) rfl
  obtain ⟨m, htold, hnear, heven, -, -⟩ := hlate atHalf rfl (by decide) (by decide)
  obtain ⟨m', htold', hnear', -, -, -⟩ := hlate pastHalf rfl (by decide) (by decide)
  have hhalf : atHalf.now.since default = 150000000 := rfl
  have hpast : pastHalf.now.since default = 150000001 := rfl
  rw [hhalf] at hnear heven
  rw [hpast, abs_le] at hnear'
  have htwo : m = 2 := by
    have hor : m = 2 ∨ m = 3 := by
      rw [abs_le] at hnear
      omega
    refine hor.resolve_right ?_
    rintro rfl
    exact absurd (heven rfl) (by decide)
  have hthree : m' = 3 := by omega
  rw [htwo] at htold
  rw [hthree] at htold'
  exact ⟨htold, htold'⟩

end Calls

end PayoutRegistry
