import PayoutRegistry.Text.Utf8
import Mathlib.Tactic.SplitIfs

/-!
UTF-8 read back: the bytes of a text are read as that text. A point in a text is one byte, and no other
character has that byte among its own.
-/
namespace PayoutRegistry.Utf8

variable {n b count value : Nat} {rest : Bytes}

theorem toNat_byte (h : n < 256) : (UInt8.ofNat n).toNat = n := by
  rw [UInt8.toNat_ofNat']
  exact Nat.mod_eq_of_lt h

theorem tailLength?_eq (h : n < 256) : tailLength? (UInt8.ofNat n) =
    if 0xC2 ≤ n ∧ n ≤ 0xDF then some 1
    else if 0xE0 ≤ n ∧ n ≤ 0xEF then some 2
    else if 0xF0 ≤ n ∧ n ≤ 0xF4 then some 3
    else none := by
  simp only [tailLength?, UInt8.le_iff_toNat_le, toNat_byte h, UInt8.reduceToNat]

/-- What the second byte of a character adds lies in these bounds. -/
def secondBits (first : Nat) : Nat × Nat :=
  if first = 0xE0 then (0x20, 0x3F)
  else if first = 0xED then (0, 0x1F)
  else if first = 0xF0 then (0x10, 0x3F)
  else if first = 0xF4 then (0, 0x0F)
  else (0, 0x3F)

theorem secondRange_eq (h : n < 256) : secondRange (UInt8.ofNat n) =
    (UInt8.ofNat (0x80 + (secondBits n).1), UInt8.ofNat (0x80 + (secondBits n).2)) := by
  simp only [secondRange, secondBits, ← UInt8.toNat_inj, toNat_byte h, UInt8.reduceToNat]
  split_ifs <;> rfl

theorem secondBits_lt : (secondBits n).1 < 64 ∧ (secondBits n).2 < 64 := by
  simp only [secondBits]
  split_ifs <;> decide

/-- The value of a byte that continues a character. -/
theorem toNat_tail (hb : b < 64) : (UInt8.ofNat (0x80 + b)).toNat = 0x80 + b := by
  apply toNat_byte
  omega

theorem continued_tail (hb : b < 64) :
    continued value (UInt8.ofNat (0x80 + b)) = value * 64 + b := by
  change value * 64 + ((UInt8.ofNat (0x80 + b)).toNat - 0x80) = value * 64 + b
  rw [toNat_tail hb, Nat.add_sub_cancel_left]

/-- A byte that continues a character is taken, and adds its six bits. -/
theorem readTail_tail (hb : b < 64) : readTail value (count + 1) (UInt8.ofNat (0x80 + b) :: rest) =
    readTail (value * 64 + b) count rest := by
  have hrange : 0x80 ≤ UInt8.ofNat (0x80 + b) ∧ UInt8.ofNat (0x80 + b) ≤ 0xBF := by
    simp only [UInt8.le_iff_toNat_le, toNat_tail hb, UInt8.reduceToNat]
    omega
  rw [readTail, if_pos hrange, continued_tail hb]

/-- A byte below 0x80 is a character of its own. -/
theorem next_one (hn : n < 0x80) : next (UInt8.ofNat n :: rest) = .char (Char.ofNat n) rest := by
  have hbyte := toNat_byte (n := n) (by omega)
  have hlt : UInt8.ofNat n < 0x80 := by
    simp only [UInt8.lt_iff_toNat_lt, hbyte, UInt8.reduceToNat]
    exact hn
  simp only [next, hlt, ↓reduceIte, hbyte]

/-- A first byte and a second one within its bounds. -/
theorem next_more (hn : n < 256) (hlen : tailLength? (UInt8.ofNat n) = some (count + 1))
    (hb : (secondBits n).1 ≤ b ∧ b ≤ (secondBits n).2) :
    next (UInt8.ofNat n :: UInt8.ofNat (0x80 + b) :: rest) =
      readTail (n % Nat.pow 2 (6 - (count + 1)) * 64 + b) count rest := by
  have hbits := secondBits_lt (n := n)
  have hfirst : ¬UInt8.ofNat n < 0x80 := by
    simp only [UInt8.lt_iff_toNat_lt, toNat_byte hn, UInt8.reduceToNat]
    rw [tailLength?_eq hn] at hlen
    split_ifs at hlen <;> omega
  have hrange : UInt8.ofNat (0x80 + (secondBits n).1) ≤ UInt8.ofNat (0x80 + b) ∧
      UInt8.ofNat (0x80 + b) ≤ UInt8.ofNat (0x80 + (secondBits n).2) := by
    rw [UInt8.le_iff_toNat_le, UInt8.le_iff_toNat_le, toNat_tail hbits.1, toNat_tail hbits.2,
      toNat_tail (by omega)]
    omega
  simp only [next, hfirst, ↓reduceIte, hlen, secondRange_eq hn, hrange, and_self, firstBits,
    toNat_byte hn, continued_tail (show b < 64 by omega), Nat.add_sub_cancel]

theorem ofNat_eq_of_toNat {c : Char} (h : n = c.toNat) : Char.ofNat n = c := by
  rw [h, Char.ofNat_toNat]

/-- The bytes of a character are read as that character, whatever comes after them. -/
theorem next_encodeChar (c : Char) (rest : Bytes) : next (encodeChar c ++ rest) = .char c rest := by
  have hvalid : c.toNat < 0xD800 ∨ 0xDFFF < c.toNat ∧ c.toNat < 0x110000 := c.valid
  have hbits (k : Nat) : k % 64 < 64 := Nat.mod_lt k (by decide)
  simp only [encodeChar, Nat.pow_eq, Nat.reducePow, Nat.div_one]
  split_ifs with h₁ h₂ h₃
  · simp only [List.singleton_append, next_one h₁, Char.ofNat_toNat]
  · have hn : 0xC0 + c.toNat / 64 < 256 := by omega
    have hlen : tailLength? (UInt8.ofNat (0xC0 + c.toNat / 64)) = some (0 + 1) := by
      rw [tailLength?_eq hn, if_pos (by omega)]
    simp only [List.cons_append, List.nil_append]
    rw [next_more hn hlen (by simp only [secondBits]; split_ifs <;> omega), readTail,
      ofNat_eq_of_toNat]
    simp only [Nat.pow_eq]
    omega
  · have hn : 0xE0 + c.toNat / 4096 < 256 := by omega
    have hlen : tailLength? (UInt8.ofNat (0xE0 + c.toNat / 4096)) = some (1 + 1) := by
      rw [tailLength?_eq hn, if_neg (by omega), if_pos (by omega)]
    simp only [List.cons_append, List.nil_append]
    rw [next_more hn hlen (by simp only [secondBits]; split_ifs <;> omega), readTail_tail (hbits _),
      readTail, ofNat_eq_of_toNat]
    simp only [Nat.pow_eq]
    omega
  · have hn : 0xF0 + c.toNat / 262144 < 256 := by omega
    have hlen : tailLength? (UInt8.ofNat (0xF0 + c.toNat / 262144)) = some (2 + 1) := by
      rw [tailLength?_eq hn, if_neg (by omega), if_neg (by omega), if_pos (by omega)]
    simp only [List.cons_append, List.nil_append]
    rw [next_more hn hlen (by simp only [secondBits]; split_ifs <;> omega), readTail_tail (hbits _),
      readTail_tail (hbits _), readTail, ofNat_eq_of_toNat]
    simp only [Nat.pow_eq]
    omega

theorem length_encodeChar_pos (c : Char) : 0 < (encodeChar c).length := by
  simp only [encodeChar]
  split_ifs <;> exact Nat.succ_pos _

theorem length_le_length_encode (cs : List Char) : cs.length ≤ (cs.flatMap encodeChar).length := by
  induction cs with
  | nil => exact Nat.le_refl 0
  | cons c rest ih =>
    have hpos := length_encodeChar_pos c
    simp only [List.flatMap_cons, List.length_append, List.length_cons]
    omega

theorem readWith_encode (cs acc : List Char) {steps : Nat} (h : cs.length < steps) :
    readWith none acc steps (cs.flatMap encodeChar) = some (acc.reverse ++ cs) := by
  induction cs generalizing acc steps with
  | nil =>
    obtain _ | steps := steps
    · simp [readWith]
    · simp [readWith, next]
  | cons c rest ih =>
    obtain _ | steps := steps
    · cases h
    · rw [List.flatMap_cons, readWith, next_encodeChar]
      simp only [ih (c :: acc) (Nat.lt_of_succ_lt_succ h), List.reverse_cons, List.append_assoc,
        List.singleton_append]

theorem decode?_encode (s : String) : decode? (encode s) = some s := by
  simp only [decode?, encode]
  rw [readWith_encode s.toList [] (Nat.lt_succ_of_le (length_le_length_encode s.toList))]
  simp

theorem encode_append (s t : String) : encode (s ++ t) = encode s ++ encode t := by
  simp only [encode, String.toList_append, List.flatMap_append]

/-- A character of ASCII is one byte. -/
theorem encodeChar_ascii {c : Char} (h : c.toNat < 0x80) : encodeChar c = [UInt8.ofNat c.toNat] := by
  simp only [encodeChar, h, ↓reduceIte]

theorem le_of_mem_encodeChar {c : Char} {byte : UInt8} (hc : 0x80 ≤ c.toNat)
    (h : byte ∈ encodeChar c) : 0x80 ≤ byte.toNat := by
  have hvalid : c.toNat < 0xD800 ∨ 0xDFFF < c.toNat ∧ c.toNat < 0x110000 := c.valid
  obtain ⟨n, hlow, hhigh, rfl⟩ : ∃ n, 0x80 ≤ n ∧ n < 256 ∧ byte = UInt8.ofNat n := by
    have htail (k : Nat) : 0x80 ≤ 0x80 + k % 64 ∧ 0x80 + k % 64 < 256 := by omega
    simp only [encodeChar, Nat.not_lt.mpr hc, ↓reduceIte] at h
    split_ifs at h <;> simp only [List.mem_cons, List.not_mem_nil, or_false] at h
    · rcases h with rfl | rfl
      · exact ⟨_, by omega, by omega, rfl⟩
      · exact ⟨_, (htail _).1, (htail _).2, rfl⟩
    · rcases h with rfl | rfl | rfl
      · exact ⟨_, by omega, by omega, rfl⟩
      · exact ⟨_, (htail _).1, (htail _).2, rfl⟩
      · exact ⟨_, (htail _).1, (htail _).2, rfl⟩
    · rcases h with rfl | rfl | rfl | rfl
      · exact ⟨_, by omega, by omega, rfl⟩
      · exact ⟨_, (htail _).1, (htail _).2, rfl⟩
      · exact ⟨_, (htail _).1, (htail _).2, rfl⟩
      · exact ⟨_, (htail _).1, (htail _).2, rfl⟩
  rw [toNat_byte hhigh]
  exact hlow

/-- The byte of a character of ASCII is not among the bytes of any other character. -/
theorem eq_of_mem_encodeChar {c d : Char} (hc : c.toNat < 0x80)
    (h : UInt8.ofNat c.toNat ∈ encodeChar d) : d = c := by
  have hbyte : (UInt8.ofNat c.toNat).toNat = c.toNat := toNat_byte (by omega)
  by_cases hd : d.toNat < 0x80
  · rw [encodeChar_ascii hd, List.mem_singleton, ← UInt8.toNat_inj, hbyte,
      toNat_byte (by omega)] at h
    exact Char.toNat_inj.mp h.symm
  · have hle := le_of_mem_encodeChar (Nat.not_lt.mp hd) h
    omega

end PayoutRegistry.Utf8
