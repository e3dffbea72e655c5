import PayoutRegistry.Proofs.Calendar
import PayoutRegistry.Proofs.Instants

/-!
Deadlines and the readings of clocks that they are compared with. Only the points in time that are meant decide, and
not the offsets in which they are written.
-/
namespace PayoutRegistry

/-- A count of microseconds from the start of year 1 leads to a time of day on a date. -/
def InYears (n : Int) : Prop :=
  ∃ d : Date, d.isValid = true ∧ ∃ time : Nat, time < microsPerDay ∧ n = d.dayNumber * microsPerDay + time

theorem inYears_iff {n : Int} : InYears n ↔ 0 ≤ n ∧ n < microsLimit := by
  have hlimit : microsLimit = Date.allDays * microsPerDay := rfl
  constructor
  · rintro ⟨d, hd, time, htime, rfl⟩
    have hday : d.dayNumber + 1 ≤ Date.allDays := Date.dayNumber_lt hd
    have hover : (d.dayNumber + 1) * microsPerDay ≤ Date.allDays * microsPerDay :=
      Nat.mul_le_mul_right _ hday
    rw [Nat.add_mul, Nat.one_mul] at hover
    omega
  · rintro ⟨hstart, hend⟩
    have hday : n.toNat / microsPerDay < Date.allDays := by
      rw [Nat.div_lt_iff_lt_mul (by decide)]
      omega
    obtain ⟨hvalid, hnumber⟩ := Date.ofDayNumber_spec hday
    refine ⟨_, hvalid, n.toNat % microsPerDay, Nat.mod_lt _ (by decide), ?_⟩
    have hsum : n.toNat / microsPerDay * microsPerDay + n.toNat % microsPerDay = n.toNat := Nat.div_add_mod' _ _
    rw [hnumber]
    omega

theorem Instant.inYears (t : Instant) : InYears t.micros :=
  inYears_iff.mpr ⟨Int.natCast_nonneg _, Int.ofNat_lt.mpr t.micros_lt⟩

namespace Moment

variable {m : Moment} {t : Instant}

/-- The point in time that is meant, in microseconds from the start of year 1 at UTC. -/
def absolute (m : Moment) : Int := m.wall.micros - m.offset.getD 0

/-- A reading as rows keep it: without its offset. -/
def stored (m : Moment) : Moment := { m with offset := none }

theorem instant?_eq_some : m.instant? = some t ↔ (t.micros : Int) = m.absolute := by
  rw [instant?, Instant.add?_eq_some, absolute, Int.sub_eq_add_neg]

/-- Readings that mean the same point in time are read alike. -/
theorem instant?_congr {m' : Moment} (h : m'.absolute = m.absolute) : m'.instant? = m.instant? := by
  ext t
  rw [instant?_eq_some, instant?_eq_some, h]

theorem exists_instant?_iff : (∃ t, m.instant? = some t) ↔ InYears m.absolute := by
  rw [instant?, Instant.exists_add?_iff, inYears_iff, absolute, Int.sub_eq_add_neg]

theorem instant?_eq_none : m.instant? = none ↔ ¬ InYears m.absolute := by
  rw [← exists_instant?_iff, ← Option.ne_none_iff_exists', ne_eq, Classical.not_not]

@[simp] theorem absolute_utc (t : Instant) : (utc t).absolute = t.micros := Int.sub_zero _

theorem absolute_of_offset (h : m.offset = some 0) : m.absolute = m.wall.micros := by
  rw [absolute, h]
  exact Int.sub_zero _

theorem asUtc?_eq_some {u : Moment} : m.asUtc? = some u ↔ u.offset = some 0 ∧ u.absolute = m.absolute := by
  rw [asUtc?, Option.map_eq_some_iff]
  constructor
  · rintro ⟨t, ht, rfl⟩
    exact ⟨rfl, (absolute_utc t).trans (instant?_eq_some.mp ht)⟩
  · rintro ⟨hoffset, habsolute⟩
    obtain ⟨wall, offset⟩ := u
    obtain rfl : offset = some 0 := hoffset
    exact ⟨wall, instant?_eq_some.mpr ((absolute_utc wall).symm.trans habsolute), rfl⟩

theorem asUtc?_eq_none : m.asUtc? = none ↔ ¬ InYears m.absolute := by
  rw [asUtc?, Option.map_eq_none_iff, instant?_eq_none]

/-- A reading at UTC that loses its offset still means the same. -/
theorem absolute_stored (h : m.offset = some 0) : m.stored.absolute = m.absolute := by
  rw [absolute_of_offset h]
  exact Int.sub_zero _

end Moment

namespace Code

variable {minutes : Int} {issued now due : Moment}

theorem dueAt_eq_ok : dueAt minutes issued = .ok due ↔
    InYears issued.absolute ∧ due.offset = some 0 ∧ due.absolute = issued.absolute + minutes * 60000000 := by
  have hread : dueAt minutes issued = .ok due ↔
      ∃ t last, issued.instant? = some t ∧ deadline? minutes t = some last ∧ .utc last = due := by
    simp only [dueAt]
    cases hlast : issued.instant?.bind (deadline? minutes) with
    | none =>
      simp only [reduceCtorEq, false_iff]
      rintro ⟨t, last, ht, hlast', -⟩
      rw [ht, Option.bind_some, hlast'] at hlast
      cases hlast
    | some last =>
      obtain ⟨t, ht, hlast⟩ := Option.bind_eq_some_iff.mp hlast
      simp [ht, hlast]
  rw [hread, ← Moment.exists_instant?_iff]
  constructor
  · rintro ⟨t, last, ht, hlast, rfl⟩
    have hmicros : (last.micros : Int) = t.micros + minutes * 60000000 := Instant.add?_eq_some.mp hlast
    rw [Moment.instant?_eq_some.mp ht] at hmicros
    exact ⟨⟨t, ht⟩, rfl, (Moment.absolute_utc last).trans hmicros⟩
  · rintro ⟨⟨t, ht⟩, hoffset, habsolute⟩
    obtain ⟨wall, offset⟩ := due
    obtain rfl : offset = some 0 := hoffset
    rw [← Moment.instant?_eq_some.mp ht] at habsolute
    have hmicros : (wall.micros : Int) = t.micros + minutes * 60000000 :=
      (Moment.absolute_utc wall).symm.trans habsolute
    exact ⟨t, wall, ht, Instant.add?_eq_some.mpr hmicros, rfl⟩

theorem dueAt_ok_or_overflow (minutes : Int) (issued : Moment) :
    (∃ due, dueAt minutes issued = .ok due) ∨ dueAt minutes issued = .error .overflow := by
  simp only [dueAt]
  split
  · exact .inl ⟨_, rfl⟩
  · exact .inr rfl

theorem exists_dueAt_iff (h : InYears issued.absolute) :
    (∃ due, dueAt minutes issued = .ok due) ↔ InYears (issued.absolute + minutes * 60000000) := by
  constructor
  · rintro ⟨due, hdue⟩
    obtain ⟨-, hoffset, habsolute⟩ := dueAt_eq_ok.mp hdue
    rw [← habsolute, Moment.absolute_of_offset hoffset]
    exact due.wall.inYears
  · intro hdue
    obtain ⟨hstart, hend⟩ := inYears_iff.mp hdue
    obtain ⟨last, hlast⟩ : ∃ last : Instant, (last.micros : Int) = issued.absolute + minutes * 60000000 :=
      ⟨{ micros := (issued.absolute + minutes * 60000000).toNat, micros_lt := by omega },
        Int.toNat_of_nonneg hstart⟩
    exact ⟨.utc last, dueAt_eq_ok.mpr ⟨h, rfl, (Moment.absolute_utc last).trans hlast⟩⟩

theorem inYears_due (h : dueAt minutes issued = .ok due) : InYears due.absolute := by
  obtain ⟨-, hoffset, -⟩ := dueAt_eq_ok.mp h
  rw [Moment.absolute_of_offset hoffset]
  exact due.wall.inYears

theorem isPast_iff_absolute {t last : Instant} (hdue : due.instant? = some last) (hnow : now.instant? = some t) :
    isPast (some last) t = decide (due.absolute < now.absolute) := by
  have hlt : last < t ↔ due.absolute < now.absolute := by
    rw [← Moment.instant?_eq_some.mp hdue, ← Moment.instant?_eq_some.mp hnow, Int.ofNat_lt]
    exact Iff.rfl
  simp only [isPast, hlt]

theorem hasPassed_eq_ok {passed : Bool} : hasPassed (some due) now = .ok passed ↔
    InYears due.absolute ∧ InYears now.absolute ∧ passed = decide (due.absolute < now.absolute) := by
  rw [← Moment.exists_instant?_iff, ← Moment.exists_instant?_iff]
  constructor
  · intro h
    simp only [hasPassed] at h
    split at h
    · rename_i t last hnow hdue
      rw [isPast_iff_absolute hdue hnow] at h
      exact ⟨⟨last, hdue⟩, ⟨t, hnow⟩, (Except.ok.inj h).symm⟩
    · cases h
  · rintro ⟨⟨last, hdue⟩, ⟨t, hnow⟩, rfl⟩
    simp only [hasPassed, hdue, hnow, isPast_iff_absolute hdue hnow]

end Code

/-- A deadline is some minutes after the point in time that its reading means, and it overflows exactly if that leaves
the years that have a date. It has passed exactly if more than these minutes lie between the two points in time that
are meant, in whatever offsets they and the deadline are written, and also if the deadline was kept without its
offset. What has passed has passed at all later readings, and with all shorter terms, and what has no deadline has
passed always. Reading at UTC keeps the point in time, and a second time changes nothing. -/
theorem deadlines_compare_instants (minutes : Int) (issued now : Moment) (hissued : InYears issued.absolute)
    (hnow : InYears now.absolute) :
    (Code.dueAt minutes issued = .error .overflow ↔ ¬ InYears (issued.absolute + minutes * 60000000)) ∧
      (∀ issued' : Moment, issued'.absolute = issued.absolute →
        Code.dueAt minutes issued' = Code.dueAt minutes issued) ∧
      (Code.dueAt minutes issued ≠ .error .overflow → ∃ due, Code.dueAt minutes issued = .ok due ∧
        ∀ due' now' : Moment, due'.absolute = due.absolute ∨ due' = due.stored → now'.absolute = now.absolute →
          Code.hasPassed (some due') now' =
            .ok (decide (minutes * 60000000 < now.absolute - issued.absolute))) ∧
      (∀ due later : Moment, InYears later.absolute → now.absolute ≤ later.absolute →
        Code.hasPassed (some due) now = .ok true → Code.hasPassed (some due) later = .ok true) ∧
      (∀ (more : Int) (due due' : Moment), minutes ≤ more → Code.dueAt minutes issued = .ok due →
        Code.dueAt more issued = .ok due' → Code.hasPassed (some due') now = .ok true →
          Code.hasPassed (some due) now = .ok true) ∧
      (∀ m : Moment, Code.hasPassed none m = .ok true) ∧
      ∀ m : Moment, (m.asUtc? = none ↔ ¬ InYears m.absolute) ∧
        ∀ u, m.asUtc? = some u → u.absolute = m.absolute ∧ u.offset = some 0 ∧ u.asUtc? = some u := by
  refine ⟨?_, ?_, ?_, ?_, ?_, fun _ => rfl, ?_⟩
  · rw [← Code.exists_dueAt_iff hissued]
    rcases Code.dueAt_ok_or_overflow minutes issued with ⟨due, hdue⟩ | hoverflow
    · simp [hdue]
    · simp [hoverflow]
  · intro issued' hsame
    rw [Code.dueAt, Code.dueAt, Moment.instant?_congr hsame]
  · intro hok
    obtain ⟨due, hdue⟩ := (Code.dueAt_ok_or_overflow minutes issued).resolve_right hok
    refine ⟨due, hdue, ?_⟩
    intro due' now' hdue' hnow'
    obtain ⟨-, hoffset, habsolute⟩ := Code.dueAt_eq_ok.mp hdue
    have hsame : due'.absolute = due.absolute := by
      rcases hdue' with hsame | rfl
      · exact hsame
      · exact Moment.absolute_stored hoffset
    rw [Code.hasPassed_eq_ok, hsame, hnow', habsolute]
    refine ⟨habsolute ▸ Code.inYears_due hdue, hnow, decide_eq_decide.mpr ?_⟩
    omega
  · intro due later hlater hle hpassed
    obtain ⟨hyears, -, hlt⟩ := Code.hasPassed_eq_ok.mp hpassed
    have hlt : due.absolute < now.absolute := of_decide_eq_true hlt.symm
    exact Code.hasPassed_eq_ok.mpr ⟨hyears, hlater, (decide_eq_true (Int.lt_of_lt_of_le hlt hle)).symm⟩
  · intro more due due' hle hdue hdue' hpassed
    obtain ⟨-, -, hlt⟩ := Code.hasPassed_eq_ok.mp hpassed
    have hlt : due'.absolute < now.absolute := of_decide_eq_true hlt.symm
    obtain ⟨-, -, habsolute⟩ := Code.dueAt_eq_ok.mp hdue
    obtain ⟨-, -, habsolute'⟩ := Code.dueAt_eq_ok.mp hdue'
    have hlt : due.absolute < now.absolute := by omega
    exact Code.hasPassed_eq_ok.mpr ⟨Code.inYears_due hdue, hnow, (decide_eq_true hlt).symm⟩
  · intro m
    refine ⟨Moment.asUtc?_eq_none, ?_⟩
    intro u hu
    obtain ⟨hoffset, habsolute⟩ := Moment.asUtc?_eq_some.mp hu
    exact ⟨habsolute, hoffset, Moment.asUtc?_eq_some.mpr ⟨hoffset, rfl⟩⟩

/-- Ten minutes to one on the 29th of February 2024, an hour ahead of UTC. -/
def leapNight : Moment :=
  { wall := { micros := 63844764600000000, micros_lt := by decide }, offset := some 3600000000 }

/-- Five past midnight on the same day at UTC, to the microsecond a quarter of an hour later. -/
def leapMorning : Moment :=
  { wall := { micros := 63844761900000000, micros_lt := by decide }, offset := none }

theorem leapNight_deadline : InYears leapNight.absolute ∧ InYears leapMorning.absolute ∧
    ∃ due, Code.dueAt 15 leapNight = .ok due ∧ Code.hasPassed (some due.stored) leapMorning = .ok false := by
  have hnight : InYears leapNight.absolute := inYears_iff.mpr (by decide)
  have hmorning : InYears leapMorning.absolute := inYears_iff.mpr (by decide)
  obtain ⟨hoverflow, -, hdue, -⟩ := deadlines_compare_instants 15 leapNight leapMorning hnight hmorning
  have hyears : InYears (leapNight.absolute + 15 * 60000000) := inYears_iff.mpr (by decide)
  obtain ⟨due, hdue, hpassed⟩ := hdue fun h => hoverflow.mp h hyears
  exact ⟨hnight, hmorning, due, hdue, hpassed due.stored leapMorning (.inr rfl) rfl⟩

end PayoutRegistry
