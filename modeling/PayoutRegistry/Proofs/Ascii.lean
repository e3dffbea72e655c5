import PayoutRegistry.EmailAddress
import Mathlib.Tactic.Common

/-!
What the tables of characters say of ASCII. The tables are in ascending order, so the few numbers at the
head of each settle it, and nothing of the rest has to be read.
-/
namespace PayoutRegistry

namespace CodeRanges

theorem le_of_mem_ofNumbers {next : Nat} {ns : List Nat} {r : Nat × Nat} (h : r ∈ ofNumbers next ns) :
    next ≤ r.1 := by
  induction next, ns using ofNumbers.induct with
  | case1 next gap more rest ih =>
    rcases List.mem_cons.mp h with rfl | h
    · exact Nat.le_add_right _ _
    · have := ih h
      omega
  | case2 next ns hne => simp [ofNumbers] at h

/-- Characters before the first range are in no range. -/
theorem contains_eq_false {t : CodeRanges} {c : Char} (h : ∀ r ∈ t.ranges, c.toNat < r.1) :
    t.contains c = false := by
  simp only [contains, List.any_eq_false, Bool.and_eq_true, decide_eq_true_eq, not_and]
  intro r hr
  have := h r hr
  omega

end CodeRanges

namespace Text

theorem CaseRun.le_of_mem_ofNumbers {last : Nat} {ns : List Nat} {r : CaseRun}
    (h : r ∈ ofNumbers last ns) : last ≤ r.first := by
  induction last, ns using ofNumbers.induct with
  | case1 last gap count step move rest ih =>
    rcases List.mem_cons.mp h with rfl | h
    · exact Nat.le_add_right _ _
    · have := ih h
      omega
  | case2 last ns hne => simp [ofNumbers] at h

theorem CaseRun.add_le_of_mem_ofNumbers {last gap : Nat} {ns : List Nat} {r : CaseRun}
    (h : r ∈ ofNumbers last (gap :: ns)) : last + gap ≤ r.first := by
  match ns with
  | count :: step :: move :: rest =>
    rcases List.mem_cons.mp h with rfl | h
    · exact Nat.le_refl _
    · exact le_of_mem_ofNumbers h
  | [] | [_] | [_, _] => simp [ofNumbers] at h

variable {c : Char} {s : String}

/-- What a map has neither an expansion nor a run for is not changed. -/
theorem CaseMap.text_eq_self {m : CaseMap} (hexpansions : ∀ c ∈ s.toList, m.expansions.lookup c.toNat = none)
    (hruns : ∀ c ∈ s.toList, ∀ r ∈ m.runs, r.contains c.toNat = false) : m.text s = s := by
  have hchar : ∀ c ∈ s.toList, m.char c = [c] := by
    intro c hc
    have hfind : m.runs.find? (·.contains c.toNat) = none := by
      refine List.find?_eq_none.mpr fun r hr => ?_
      simp [hruns c hc r hr]
    simp only [char, hexpansions c hc, hfind]
  have hall : s.toList.flatMap m.char = s.toList := by
    generalize s.toList = cs at hchar
    induction cs with
    | nil => rfl
    | cons c cs ih =>
      rw [List.flatMap_cons, hchar c List.mem_cons_self,
        ih fun d hd => hchar d (List.mem_cons_of_mem _ hd)]
      rfl
  rw [text, hall, String.ofList_toList]

/-- The first two ranges of hidden characters are the control characters around those that show. -/
theorem hiddenRanges_head : ∃ rest, hiddenRanges.ranges = (0, 0x1F) :: (0x7F, 0xA0) :: rest ∧
    ∀ r ∈ rest, 0xA1 ≤ r.1 := by
  simp only [hiddenRanges, CodeRanges.parse, numbers, String.join_cons, String.toList_append]
  exact ⟨_, rfl, fun r hr => CodeRanges.le_of_mem_ofNumbers hr⟩

theorem isPrintable_ascii (h : 0x20 ≤ c.toNat) (h' : c.toNat < 0x7F) : isPrintable c = true := by
  obtain ⟨rest, hranges, hrest⟩ := hiddenRanges_head
  have hnot : hiddenRanges.contains c = false := by
    simp only [CodeRanges.contains, hranges, List.any_cons, Bool.or_eq_false_iff,
      Bool.and_eq_false_iff, decide_eq_false_iff_not, List.any_eq_false, Bool.and_eq_true,
      decide_eq_true_eq, not_and]
    refine ⟨by omega, by omega, fun r hr => ?_⟩
    have := hrest r hr
    omega
  rw [isPrintable, hnot]
  rfl

/-- The marks begin far behind ASCII. -/
theorem markRanges_head : ∃ rest, markRanges.ranges = (0x300, 0x36F) :: rest ∧
    ∀ r ∈ rest, 0x370 ≤ r.1 := by
  simp only [markRanges, CodeRanges.parse, numbers, String.join_cons, String.toList_append]
  exact ⟨_, rfl, fun r hr => CodeRanges.le_of_mem_ofNumbers hr⟩

theorem isMark_ascii (h : c.toNat < 0x300) : isMark c = false := by
  obtain ⟨rest, hranges, hrest⟩ := markRanges_head
  refine CodeRanges.contains_eq_false ?_
  intro r hr
  rw [hranges] at hr
  rcases List.mem_cons.mp hr with rfl | hr
  · exact h
  · have := hrest r hr
    omega

/-- The capital letters of ASCII are the first that have a lower case. -/
theorem lowerCase_head : ∃ ns, lowerCase.runs = CaseRun.ofNumbers 0 (0x41 :: 26 :: 1 :: 64 :: 127 :: ns) := by
  simp only [lowerCase, numbers, String.join_cons, String.toList_append]
  exact ⟨_, rfl⟩

theorem runs_lowerCase {r : CaseRun} (h : r ∈ lowerCase.runs) :
    r = { first := 0x41, count := 26, step := 1, distance := 32 } ∨ 0xC0 ≤ r.first := by
  obtain ⟨ns, hruns⟩ := lowerCase_head
  rw [hruns] at h
  rcases List.mem_cons.mp h with rfl | h
  · exact Or.inl rfl
  · exact Or.inr (CaseRun.add_le_of_mem_ofNumbers h)

theorem lowercase_of_lower (h : ∀ c ∈ s.toList, c.toNat < 0x41 ∨ 0x5A < c.toNat ∧ c.toNat < 0xC0) :
    lowercase s = s := by
  refine CaseMap.text_eq_self ?_ ?_
  · intro c hc
    have hone : lowerCase.expansions = [(0x130, [0x69, 0x307])] := rfl
    have hne : (c.toNat == 0x130) = false := by
      have := h c hc
      simp only [beq_eq_false_iff_ne]
      omega
    rw [hone, List.lookup_cons, hne]
    rfl
  · intro c hc r hr
    have hletter := h c hc
    simp only [CaseRun.contains, Bool.and_eq_false_iff, decide_eq_false_iff_not]
    rcases runs_lowerCase hr with rfl | hr
    · simp only
      omega
    · omega

end Text

/-- ASCII text without control characters and blanks is visible. -/
theorem DomainName.isVisible_ascii {cs : List Char}
    (h : ∀ c ∈ cs, 0x20 < c.toNat ∧ c.toNat < 0x7F) : isVisible cs = true := by
  have hshown : ∀ c ∈ cs, (Text.isPrintable c && c != ' ') = true := by
    intro c hc
    obtain ⟨hlow, hhigh⟩ := h c hc
    have hblank : c ≠ ' ' := by
      rintro rfl
      exact absurd hlow (by decide)
    rw [Text.isPrintable_ascii (Nat.le_of_lt hlow) hhigh]
    simpa using hblank
  have hhead : cs.head?.any Text.isMark = false := by
    rw [Option.any_eq_false]
    intro c hc
    have := (h c (List.mem_of_mem_head? hc)).2
    simp [Text.isMark_ascii (c := c) (by omega)]
  rw [isVisible, hhead, List.all_eq_true.mpr hshown]
  rfl

end PayoutRegistry
