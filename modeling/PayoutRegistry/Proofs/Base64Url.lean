import PayoutRegistry.Base64Url
import PayoutRegistry.Proofs.Utf8
import PayoutRegistry.Text.Blank

/-! Base-64 text read back: the text of any bytes is read as those bytes. -/
namespace PayoutRegistry.Base64Url

variable {n pads : Nat} {g : Group} {acc rest : Bytes}

/-- The byte of a six-bit value in a text. -/
def code (n : Nat) : UInt8 := UInt8.ofNat (digit n).toNat

theorem value?_code (h : n < 64) : value? (code n) = some n := by
  have hall : ∀ k : Fin 64, value? (code k) = some k.val := by decide
  exact hall ⟨n, h⟩

theorem code_ne_padding (h : n < 64) : code n ≠ 61 := by
  have hall : ∀ k : Fin 64, code k ≠ 61 := by decide
  exact hall ⟨n, h⟩

theorem digit_ascii (h : n < 64) : (digit n).toNat < 0x80 := by
  have hall : ∀ k : Fin 64, (digit k).toNat < 0x80 := by decide
  exact hall ⟨n, h⟩

theorem digit_ne_point (h : n < 64) : digit n ≠ '.' := by
  have hall : ∀ k : Fin 64, digit k ≠ '.' := by decide
  exact hall ⟨n, h⟩

theorem isBlank_digit (h : n < 64) : Text.isBlank (digit n) = false := by
  have hall : ∀ k : Fin 64, Text.isBlank (digit k) = false := by decide
  exact hall ⟨n, h⟩

theorem exists_of_mem_encodeDigits {bytes : Bytes} {c : Char} (h : c ∈ encodeDigits bytes) :
    ∃ n < 64, c = digit n := by
  have hbyte (b : UInt8) : b.toNat < 256 := b.toNat_lt
  induction bytes using encodeDigits.induct with
  | case1 => cases h
  | case2 a =>
    have ha := hbyte a
    simp only [encodeDigits, List.mem_cons, List.not_mem_nil, or_false] at h
    rcases h with rfl | rfl <;> exact ⟨_, by omega, rfl⟩
  | case3 a b =>
    have ha := hbyte a
    have hb := hbyte b
    simp only [encodeDigits, List.mem_cons, List.not_mem_nil, or_false] at h
    rcases h with rfl | rfl | rfl <;> exact ⟨_, by omega, rfl⟩
  | case4 a b c rest ih =>
    have ha := hbyte a
    have hb := hbyte b
    have hc := hbyte c
    simp only [encodeDigits, List.mem_cons] at h
    rcases h with rfl | rfl | rfl | rfl | h
    · exact ⟨_, by omega, rfl⟩
    · exact ⟨_, by omega, rfl⟩
    · exact ⟨_, by omega, rfl⟩
    · exact ⟨_, by omega, rfl⟩
    · exact ih h

theorem point_not_mem_encode (bytes : Bytes) : '.' ∉ (encode bytes).toList := by
  rw [encode, String.toList_ofList]
  intro h
  obtain ⟨n, hn, heq⟩ := exists_of_mem_encodeDigits h
  exact digit_ne_point hn heq.symm

theorem isBlank_of_mem_encode {bytes : Bytes} {c : Char} (h : c ∈ (encode bytes).toList) :
    Text.isBlank c = false := by
  rw [encode, String.toList_ofList] at h
  obtain ⟨n, hn, rfl⟩ := exists_of_mem_encodeDigits h
  exact isBlank_digit hn

/-- A text in the alphabet is one byte for each character. -/
theorem utf8_encode (bytes : Bytes) :
    Utf8.encode (encode bytes) = (encodeDigits bytes).map fun c => UInt8.ofNat c.toNat := by
  have hascii : ∀ cs : List Char, (∀ c ∈ cs, ∃ n < 64, c = digit n) →
      cs.flatMap Utf8.encodeChar = cs.map fun c => UInt8.ofNat c.toNat := by
    intro cs
    induction cs with
    | nil => intro _; rfl
    | cons c rest ih =>
      intro h
      obtain ⟨n, hn, rfl⟩ := h c (List.mem_cons_self ..)
      rw [List.flatMap_cons, Utf8.encodeChar_ascii (digit_ascii hn), List.map_cons,
        ih fun c hc => h c (List.mem_cons_of_mem _ hc)]
      rfl
  rw [Utf8.encode, encode, String.toList_ofList]
  exact hascii _ fun c hc => exists_of_mem_encodeDigits hc

/-- A six-bit value is pushed into the group under way. -/
theorem decodeFrom_code (h : n < 64) : decodeFrom g pads acc (code n :: rest) =
    decodeFrom (g.push n).2 0 ((g.push n).1.toList ++ acc) rest := by
  simp only [decodeFrom, code_ne_padding h, ↓reduceIte, value?_code h]
  cases g <;> rfl

theorem ofNat_eq_of_toNat {a : UInt8} (h : n = a.toNat) : UInt8.ofNat n = a := by
  rw [h, UInt8.ofNat_toNat]

/-- The padding of a text with `count` characters. -/
def padding (count : Nat) : Bytes := List.replicate ((4 - count % 4) % 4) 61

/-- The bits of up to three bytes, cut into pieces of six, come together again. -/
theorem decodeFrom_encodeDigits (bytes acc : Bytes) :
    decodeFrom .empty 0 acc ((encodeDigits bytes).map (fun c => UInt8.ofNat c.toNat) ++
      padding (encodeDigits bytes).length) = some (acc.reverse ++ bytes) := by
  induction bytes using encodeDigits.induct generalizing acc with
  | case1 => simp [encodeDigits, padding, decodeFrom]
  | case2 a =>
    have ha := a.toNat_lt
    have hpad : padding (encodeDigits [a]).length = [61, 61] := rfl
    have hfirst : UInt8.ofNat (a.toNat / 4 * 4 + a.toNat % 4 * 16 / 16) = a :=
      ofNat_eq_of_toNat (by omega)
    change decodeFrom .empty 0 acc (code _ :: code _ :: padding _) = _
    rw [hpad, decodeFrom_code (by omega), decodeFrom_code (by omega)]
    simp only [Group.push, Option.toList, List.nil_append, List.cons_append, hfirst]
    simp [decodeFrom, Group.missing?]
  | case3 a b =>
    have ha := a.toNat_lt
    have hb := b.toNat_lt
    have hpad : padding (encodeDigits [a, b]).length = [61] := rfl
    have hfirst : UInt8.ofNat (a.toNat / 4 * 4 + (a.toNat % 4 * 16 + b.toNat / 16) / 16) = a :=
      ofNat_eq_of_toNat (by omega)
    have hsecond : UInt8.ofNat ((a.toNat % 4 * 16 + b.toNat / 16) % 16 * 16 +
        b.toNat % 16 * 4 / 4) = b := ofNat_eq_of_toNat (by omega)
    change decodeFrom .empty 0 acc (code _ :: code _ :: code _ :: padding _) = _
    rw [hpad, decodeFrom_code (by omega), decodeFrom_code (by omega), decodeFrom_code (by omega)]
    simp only [Group.push, Option.toList, List.nil_append, List.cons_append, hfirst, hsecond]
    simp [decodeFrom, Group.missing?]
  | case4 a b c rest ih =>
    have ha := a.toNat_lt
    have hb := b.toNat_lt
    have hc := c.toNat_lt
    have hpad : padding (encodeDigits (a :: b :: c :: rest)).length =
        padding (encodeDigits rest).length := by
      simp only [padding, encodeDigits, List.length_cons, Nat.add_assoc, Nat.reduceAdd,
        Nat.add_mod_right]
    have hfirst : UInt8.ofNat (a.toNat / 4 * 4 + (a.toNat % 4 * 16 + b.toNat / 16) / 16) = a :=
      ofNat_eq_of_toNat (by omega)
    have hsecond : UInt8.ofNat ((a.toNat % 4 * 16 + b.toNat / 16) % 16 * 16 +
        (b.toNat % 16 * 4 + c.toNat / 64) / 4) = b := ofNat_eq_of_toNat (by omega)
    have hthird : UInt8.ofNat ((b.toNat % 16 * 4 + c.toNat / 64) % 4 * 64 + c.toNat % 64) = c :=
      ofNat_eq_of_toNat (by omega)
    change decodeFrom .empty 0 acc (code _ :: code _ :: code _ :: code _ :: (_ ++ padding _)) = _
    rw [hpad, decodeFrom_code (by omega), decodeFrom_code (by omega), decodeFrom_code (by omega),
      decodeFrom_code (by omega)]
    simp only [Group.push, Option.toList, List.nil_append, List.cons_append, hfirst, hsecond, hthird]
    rw [ih]
    simp

theorem decode?_encode (bytes : Bytes) : decode? (Utf8.encode (encode bytes)) = some bytes := by
  rw [decode?, utf8_encode, List.length_map]
  exact decodeFrom_encodeDigits bytes []

end PayoutRegistry.Base64Url
