import PayoutRegistry.Uuid
import Mathlib.Tactic.Ring

/-! Identifiers read back: the written form of an identifier is a spelling that tokens may use. -/
namespace PayoutRegistry

namespace Text

variable {cs : List Char}

theorem dropWhile_of_forall {p : Char → Bool} (h : ∀ c ∈ cs, p c = false) : cs.dropWhile p = cs := by
  cases cs with
  | nil => rfl
  | cons c rest => rw [List.dropWhile_cons_of_neg (by simp [h c (List.mem_cons_self ..)])]

theorem dropEndWhile_of_forall {p : Char → Bool} (h : ∀ c ∈ cs, p c = false) : dropEndWhile p cs = cs := by
  rw [dropEndWhile, dropWhile_of_forall fun c hc => h c (List.mem_reverse.mp hc), List.reverse_reverse]

theorem trim_of_forall (h : ∀ c ∈ cs, isBlank c = false) : trim cs = cs := by
  rw [trim, trimEnd, dropWhile_of_forall h, dropEndWhile_of_forall h]

end Text

namespace Uuid

variable {n value count : Nat} {c : Char}

/-! ### Hexadecimal digits -/

theorem hexDigits_zero (n : Nat) : hexDigits 0 n = [] := rfl

theorem hexDigits_succ (count n : Nat) : hexDigits (count + 1) n =
    Json.hexDigit (n / Nat.pow 16 count % 16) :: hexDigits count n := by
  simp [hexDigits, List.range_succ]

theorem length_hexDigits (count n : Nat) : (hexDigits count n).length = count := by
  simp [hexDigits]

/-- Digits may be written in groups, the higher ones first. -/
theorem hexDigits_add (a b n : Nat) :
    hexDigits (a + b) n = hexDigits a (n / Nat.pow 16 b) ++ hexDigits b n := by
  induction a with
  | zero => rw [Nat.zero_add, hexDigits_zero, List.nil_append]
  | succ a ih =>
    rw [Nat.add_right_comm, hexDigits_succ, ih, hexDigits_succ, List.cons_append, Nat.div_div_eq_div_mul]
    simp only [Nat.pow_eq, Nat.pow_add, Nat.mul_comm]

/-- What no reader of digits takes for a digit, a sign or a mark. -/
theorem hexDigit_spec (h : n < 16) : Numeral.digit? 16 (Json.hexDigit n) = some n ∧
    Json.hexDigit n ∉ ['-', '+', '_', 'u', 'x', 'X', '\x7b', '\x7d'] ∧
    Text.isBlank (Json.hexDigit n) = false := by
  have hall : ∀ k : Fin 16, Numeral.digit? 16 (Json.hexDigit k) = some k.val ∧
      Json.hexDigit k ∉ ['-', '+', '_', 'u', 'x', 'X', '\x7b', '\x7d'] ∧
      Text.isBlank (Json.hexDigit k) = false := by decide
  exact hall ⟨n, h⟩

theorem exists_of_mem_hexDigits (h : c ∈ hexDigits count n) : ∃ k < 16, c = Json.hexDigit k := by
  obtain ⟨k, -, rfl⟩ := List.mem_map.mp h
  exact ⟨_, Nat.mod_lt _ (by decide), rfl⟩

theorem not_mem_hexDigits (h : c ∈ ['-', '+', '_', 'u', 'x', 'X', '\x7b', '\x7d']) :
    c ∉ hexDigits count n := by
  intro hc
  obtain ⟨k, hk, rfl⟩ := exists_of_mem_hexDigits hc
  exact (hexDigit_spec hk).2.1 h

theorem readDigits_hexDigit {open' : Bool} {rest : List Char} (h : n < 16) :
    Numeral.readDigits 16 value open' (Json.hexDigit n :: rest) =
      Numeral.readDigits 16 (value * 16 + n) false rest := by
  obtain ⟨hdigit, hmark, -⟩ := hexDigit_spec h
  have hlow : Json.hexDigit n ≠ '_' := fun heq => hmark (by rw [heq]; decide)
  rw [Numeral.readDigits.eq_def]
  split
  · rename_i heq
    cases heq
  · rename_i heq
    exact absurd (List.cons.inj heq).1 hlow
  · rename_i heq
    cases heq
    rw [hdigit]

theorem readDigits_hexDigits (count n value : Nat) :
    Numeral.readDigits 16 value false (hexDigits count n) =
      some (value * Nat.pow 16 count + n % Nat.pow 16 count) := by
  induction count generalizing value with
  | zero => simp [hexDigits_zero, Numeral.readDigits, Nat.mod_one]
  | succ count ih =>
    rw [hexDigits_succ, readDigits_hexDigit (Nat.mod_lt _ (by decide)), ih]
    have hsplit : n % Nat.pow 16 (count + 1) =
        Nat.pow 16 count * (n / Nat.pow 16 count % 16) + n % Nat.pow 16 count := by
      rw [Nat.pow_eq, Nat.pow_eq, Nat.pow_succ, Nat.mod_mul, Nat.add_comm]
    rw [hsplit]
    simp only [Nat.pow_eq, Nat.pow_succ]
    congr 1
    ring

theorem splitSign_hexDigit (h : n < 16) (rest : List Char) :
    Numeral.splitSign (Json.hexDigit n :: rest) = (false, Json.hexDigit n :: rest) := by
  have hmark := (hexDigit_spec h).2.1
  simp only [List.mem_cons, not_or] at hmark
  simp [Numeral.splitSign, hmark]

theorem afterHexMark_hexDigit (h : n < 16) (rest : List Char) :
    Numeral.afterHexMark (c :: Json.hexDigit n :: rest) = c :: Json.hexDigit n :: rest := by
  have hmark := (hexDigit_spec h).2.1
  simp only [List.mem_cons, not_or] at hmark
  simp [Numeral.afterHexMark, hmark]

theorem trim_hexDigits (count n : Nat) : Text.trim (hexDigits count n) = hexDigits count n := by
  refine Text.trim_of_forall ?_
  intro c hc
  obtain ⟨k, hk, rfl⟩ := exists_of_mem_hexDigits hc
  exact (hexDigit_spec hk).2.2

/-- Two digits or more, if they suffice for a number, are read as that number. -/
theorem readHex?_hexDigits (h : n < Nat.pow 16 (count + 2)) :
    Numeral.readHex? (hexDigits (count + 2) n) = some (n : Int) := by
  have hdigit (k : Nat) : k % 16 < 16 := Nat.mod_lt k (by decide)
  have hdigits := readDigits_hexDigits (count + 2) n 0
  rw [Nat.zero_mul, Nat.zero_add, Nat.mod_eq_of_lt h, hexDigits_succ, hexDigits_succ,
    readDigits_hexDigit (hdigit _)] at hdigits
  rw [Numeral.readHex?, trim_hexDigits, hexDigits_succ, hexDigits_succ, splitSign_hexDigit (hdigit _)]
  simp only [afterHexMark_hexDigit (hdigit _), readDigits_hexDigit (hdigit _)] at hdigits ⊢
  rw [hdigits]
  rfl

/-! ### The written form -/

theorem without_of_not_mem {w : Char} {word cs : List Char} (h : w ∉ cs) :
    without (w :: word) cs = cs := by
  induction cs with
  | nil => rw [without]
  | cons c rest ih =>
    have hne : ¬(w :: word).isPrefixOf (c :: rest) = true := by
      simp only [List.isPrefixOf_cons_cons, Bool.and_eq_true, beq_iff_eq, not_and]
      rintro rfl
      exact absurd (List.mem_cons_self ..) h
    rw [without, if_neg hne, ih fun hc => h (List.mem_cons_of_mem _ hc)]

theorem stripBraces_of_forall {cs : List Char} (h : ∀ c ∈ cs, isBrace c = false) :
    stripBraces cs = cs := by
  rw [stripBraces, Text.dropWhile_of_forall h]
  exact Text.dropEndWhile_of_forall h

/-- The characters of the written form. -/
theorem toList_text (id : Uuid) : id.text.toList =
    hexDigits 8 (id.value.toNat / Nat.pow 16 24) ++ '-' :: hexDigits 4 (id.value.toNat / Nat.pow 16 20) ++
      '-' :: hexDigits 4 (id.value.toNat / Nat.pow 16 16) ++
      '-' :: hexDigits 4 (id.value.toNat / Nat.pow 16 12) ++ '-' :: hexDigits 12 id.value.toNat := by
  rw [text, String.toList_ofList]

theorem mem_text {id : Uuid} (h : c ∈ id.text.toList) : c = '-' ∨ ∃ k < 16, c = Json.hexDigit k := by
  rw [toList_text] at h
  simp only [List.mem_append, List.mem_cons] at h
  rcases h with (((h | rfl | h) | rfl | h) | rfl | h) | rfl | h
  all_goals first
    | exact Or.inl rfl
    | exact Or.inr (exists_of_mem_hexDigits h)

/-- Without its hyphens the written form is a number of 32 digits. -/
theorem filter_text (id : Uuid) : id.text.toList.filter (· != '-') = hexDigits 32 id.value.toNat := by
  have hdigits (count n : Nat) : (hexDigits count n).filter (· != '-') = hexDigits count n := by
    refine List.filter_eq_self.mpr fun c hc => ?_
    rw [bne_iff_ne]
    rintro rfl
    exact not_mem_hexDigits (by decide) hc
  have hgroups (n : Nat) : hexDigits 32 n = hexDigits 8 (n / Nat.pow 16 24) ++
      (hexDigits 4 (n / Nat.pow 16 20) ++ (hexDigits 4 (n / Nat.pow 16 16) ++
        (hexDigits 4 (n / Nat.pow 16 12) ++ hexDigits 12 n))) := by
    rw [hexDigits_add 8 24, hexDigits_add 4 20, hexDigits_add 4 16, hexDigits_add 4 12]
  rw [toList_text, hgroups]
  simp only [List.filter_append, List.filter_cons, hdigits, bne_self_eq_false, Bool.false_eq_true,
    ↓reduceIte, List.append_assoc]

theorem not_mem_text (id : Uuid) : 'u' ∉ id.text.toList := by
  intro h
  rcases mem_text h with h | ⟨k, hk, h⟩
  · cases h
  · exact (hexDigit_spec hk).2.1 (by rw [← h]; decide)

theorem isBrace_text (id : Uuid) : ∀ c ∈ id.text.toList, isBrace c = false := by
  intro c hc
  rcases mem_text hc with rfl | ⟨k, hk, rfl⟩
  · rfl
  · have hmark := (hexDigit_spec hk).2.1
    simp only [List.mem_cons, not_or] at hmark
    simp [isBrace, hmark]

/-- The written form is a spelling of the identifier. -/
theorem ofLoose?_text (id : Uuid) : ofLoose? id.text = some id := by
  have huuid : "uuid:".toList = 'u' :: ['u', 'i', 'd', ':'] := rfl
  have hurn : "urn:".toList = 'u' :: ['r', 'n', ':'] := rfl
  have hbits : id.value.toNat < Nat.pow 2 128 := id.value.isLt
  have hread : Numeral.readHex? (hexDigits 32 id.value.toNat) = some (id.value.toNat : Int) :=
    readHex?_hexDigits hbits
  simp only [ofLoose?, huuid, hurn, without_of_not_mem (not_mem_text id),
    stripBraces_of_forall (isBrace_text id), filter_text]
  rw [length_hexDigits, if_neg (by decide), hread, Option.bind_some,
    if_pos ⟨Int.natCast_nonneg _, Int.ofNat_lt.mpr hbits⟩, Int.toNat_natCast, BitVec.ofNat_toNat,
    BitVec.setWidth_eq]

end Uuid

end PayoutRegistry
