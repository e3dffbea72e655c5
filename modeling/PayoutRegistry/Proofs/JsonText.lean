import PayoutRegistry.Proofs.Numerals

/-!
JSON texts read back: what is printed of a value is read as that value. Left out are fractions, numbers with
more digits than the reader takes, and objects with a key that comes twice.
-/
namespace PayoutRegistry.Json

variable {style : Style} {acc rest : List Char} {c : Char} {n : Nat}

/-! ### Numbers -/

/-- A number does not go on with these characters. -/
def Cut (rest : List Char) : Prop :=
  ∀ c ∈ rest.head?, c.isDigit = false ∧ c ≠ '.' ∧ c ≠ 'e' ∧ c ≠ 'E'

theorem digitsValue_toDigits (n : Nat) : digitsValue (Nat.toDigits 10 n) = n := by
  have hvalue : ∀ (cs : List Char) (k : Nat),
      cs.foldl (fun n c => n * 10 + (c.toNat - 48)) k = Nat.ofDigitChars 10 cs k := by
    intro cs
    induction cs with
    | nil => intro k; rfl
    | cons c rest ih => intro k; rw [List.foldl_cons, ih, Nat.ofDigitChars_cons, Nat.mul_comm]; rfl
  rw [digitsValue, hvalue, Nat.ofDigitChars_ten_toDigits]

/-- Only zero is written with a zero in front. -/
theorem head_toDigits (n : Nat) (h : (Nat.toDigits 10 n).head? = some '0') : n = 0 := by
  induction n using Nat.strongRecOn with
  | _ n ih =>
    by_cases hn : n < 10
    · rw [Nat.toDigits_of_lt_base hn] at h
      simpa using h
    · rw [Nat.toDigits_of_base_le (by decide) (Nat.not_lt.mp hn),
        List.head?_append, List.head?_eq_some_head Nat.toDigits_ne_nil, Option.some_or] at h
      have hzero := ih (n / 10) (by omega) (by rwa [List.head?_eq_some_head Nat.toDigits_ne_nil])
      omega

theorem span_digits {cs : List Char} (hcs : ∀ c ∈ cs, c.isDigit = true) (hrest : Cut rest) :
    (cs ++ rest).span Char.isDigit = (cs, rest) := by
  rw [List.span_eq_takeWhile_dropWhile]
  have hstop : rest.takeWhile Char.isDigit = [] ∧ rest.dropWhile Char.isDigit = rest := by
    cases rest with
    | nil => exact ⟨rfl, rfl⟩
    | cons c rest => simp [(hrest c rfl).1]
  rw [List.takeWhile_append_of_pos hcs, List.dropWhile_append_of_pos hcs, hstop.1, hstop.2, List.append_nil]

theorem readWhole_toDigits (hrest : Cut rest) :
    readWhole (Nat.toDigits 10 n ++ rest) = (Nat.toDigits 10 n, rest) := by
  have hdigits : ∀ c ∈ Nat.toDigits 10 n, c.isDigit = true := fun c hc =>
    Nat.isDigit_of_mem_toDigits (by decide) (by decide) hc
  by_cases hn : n = 0
  · subst hn
    rw [Nat.toDigits_zero]
    rfl
  · obtain ⟨c, cs, hcs⟩ := List.exists_cons_of_ne_nil (Nat.toDigits_ne_nil (n := n) (b := 10))
    have hc : c ≠ '0' := by
      rintro rfl
      exact hn (head_toDigits n (by rw [hcs]; rfl))
    have hspan := span_digits hdigits hrest
    rw [hcs] at hspan ⊢
    rw [← hspan]
    simp only [readWhole, List.cons_append]
    split
    · rename_i h
      cases h
      exact absurd rfl hc
    · rfl
theorem readFraction_cut (hrest : Cut rest) : readFraction rest = ([], rest) := by
  cases rest with
  | nil => rfl
  | cons c rest =>
    have hc := (hrest c rfl).2.1
    simp only [readFraction]
    split
    · rename_i h
      cases h
      exact absurd rfl hc
    · rfl

theorem readExponent_cut (hrest : Cut rest) : readExponent rest = (none, rest) := by
  cases rest with
  | nil => rfl
  | cons c rest =>
    obtain ⟨-, -, he, hE⟩ := hrest c rfl
    simp [readExponent, he, hE]

/-- The digits of a number, after a sign or without one. -/
theorem readNumber_toDigits (negative : Bool) (hlength : (Nat.toDigits 10 n).length ≤ maxDigits)
    (hrest : Cut rest) :
    readNumber ((if negative then ['-'] else []) ++ (Nat.toDigits 10 n ++ rest)) =
      .ok (.int (Binary64.signed negative n), rest) := by
  have hwhole := readWhole_toDigits (n := n) hrest
  have hvalue := digitsValue_toDigits n
  have hsign : ∀ c ∈ Nat.toDigits 10 n, c ≠ '-' := by
    rintro c hc rfl
    exact absurd (Nat.isDigit_of_mem_toDigits (by decide) (by decide) hc) (by decide)
  obtain ⟨c, cs, hcs⟩ := List.exists_cons_of_ne_nil (Nat.toDigits_ne_nil (n := n) (b := 10))
  rw [hcs] at hwhole hlength hvalue hsign ⊢
  rw [List.cons_append] at hwhole ⊢
  have hfits : ¬maxDigits < (c :: cs).length := Nat.not_lt.mpr hlength
  have hc := hsign c (List.mem_cons_self ..)
  cases negative <;>
    simp [readNumber, hc, hwhole, readFraction_cut hrest, readExponent_cut hrest, hfits, hvalue,
      -List.length_cons]

theorem toList_toString (z : Int) : (toString z).toList =
    (if decide (z < 0) then ['-'] else []) ++ Nat.toDigits 10 z.natAbs := by
  rw [Int.toString_eq_repr, Int.repr_eq_if]
  by_cases h : z < 0
  · rw [if_neg (Int.not_le.mpr h), String.toList_append, Nat.toList_repr, decide_eq_true h,
      show (-z).toNat = z.natAbs by omega]
    rfl
  · rw [if_pos (Int.not_lt.mp h), Nat.toList_repr, decide_eq_false h,
      show z.toNat = z.natAbs by omega]
    rfl

theorem signed_natAbs (z : Int) : Binary64.signed (decide (z < 0)) z.natAbs = z := by
  simp only [Binary64.signed, decide_eq_true_eq]
  split_ifs <;> omega

/-! ### Texts -/

theorem hexValue?_hexDigit (h : n < 16) : hexValue? (hexDigit n) = some n := by
  have hall : ∀ k : Fin 16, hexValue? (hexDigit k) = some k.val := by decide
  exact hall ⟨n, h⟩

/-- The digits of a 16-bit unit. -/
theorem unit?_digits (h : n < 0x10000) : unit? (hexDigit (n / 4096 % 16)) (hexDigit (n / 256 % 16))
    (hexDigit (n / 16 % 16)) (hexDigit (n % 16)) = some n := by
  have hdigit (k : Nat) : hexValue? (hexDigit (k % 16)) = some (k % 16) :=
    hexValue?_hexDigit (Nat.mod_lt k (by decide))
  simp only [unit?, hdigit, Option.pure_def, Option.bind_eq_bind, Option.bind_some]
  congr 1
  omega

/-- An escape that is not the first half of a pair stands for itself, whatever follows. -/
theorem readText_unitEscape (hn : n < 0x10000) (hhigh : Encoding.isHigh n = false) :
    readText acc (unitEscape n ++ rest) = readText (Encoding.single n :: acc) rest := by
  have hunit := unit?_digits hn
  simp only [unitEscape, List.cons_append, List.nil_append]
  rw [readText.eq_def]
  split
  · rename_i h
    cases h
  · rename_i h
    cases h
  · -- What follows looks like an escape, and is looked at together with this one.
    rename_i e f g k _ h
    cases h
    rw [hunit]
    cases unit? e f g k with
    | none => rfl
    | some low => simp only [hhigh, Bool.false_and, Bool.false_eq_true, ↓reduceIte]
  · rename_i h
    cases h
    rw [hunit]
  · rename_i hshort h
    cases h
    exact (hshort _ _ _ _ _ rfl rfl).elim
  · rename_i hletter h
    cases h
    exact (hletter _ _ rfl rfl).elim

theorem readText_pair {high low : Nat} (hh : high < 0x10000) (hl : low < 0x10000)
    (hhigh : Encoding.isHigh high = true) (hlow : Encoding.isLow low = true) :
    readText acc (unitEscape high ++ (unitEscape low ++ rest)) =
      readText (Encoding.joined high low :: acc) rest := by
  simp only [unitEscape, List.cons_append, List.nil_append, readText, unit?_digits hh, unit?_digits hl,
    hhigh, hlow, Bool.and_self, ↓reduceIte]

theorem readText_letter {letter : Char} (h : unescape? letter = some c) :
    readText acc ('\\' :: letter :: rest) = readText (c :: acc) rest := by
  have hu : letter ≠ 'u' := by
    rintro rfl
    cases h
  simp [readText, hu, h]

theorem readText_plain (hquote : c ≠ '"') (hback : c ≠ '\\') (hc : 0x20 ≤ c.toNat) :
    readText acc (c :: rest) = readText (c :: acc) rest := by
  simp [readText, hback, Nat.not_lt.mpr hc]

theorem escapeLetter?_eq_some {letter : Char} (h : escapeLetter? c = some letter) :
    unescape? letter = some c := by
  simp only [escapeLetter?] at h
  split at h <;> cases h <;> rfl

theorem readText_codeEscape :
    readText acc (codeEscape c ++ rest) = readText (c :: acc) rest := by
  have hvalid : c.toNat < 0xD800 ∨ 0xDFFF < c.toNat ∧ c.toNat < 0x110000 := c.valid
  simp only [codeEscape]
  split_ifs with hn
  · have hhigh : Encoding.isHigh c.toNat = false := by
      simp only [Encoding.isHigh, Bool.and_eq_false_iff, decide_eq_false_iff_not]
      omega
    have hlow : Encoding.isLow c.toNat = false := by
      simp only [Encoding.isLow, Bool.and_eq_false_iff, decide_eq_false_iff_not]
      omega
    rw [readText_unitEscape hn hhigh]
    simp only [Encoding.single, hhigh, hlow, Bool.or_self, Bool.false_eq_true, ↓reduceIte,
      Char.ofNat_toNat]
  · have hhigh : Encoding.isHigh (0xD800 + (c.toNat - 0x10000) / 1024) = true := by
      simp only [Encoding.isHigh, Bool.and_eq_true, decide_eq_true_eq]
      omega
    have hlow : Encoding.isLow (0xDC00 + (c.toNat - 0x10000) % 1024) = true := by
      simp only [Encoding.isLow, Bool.and_eq_true, decide_eq_true_eq]
      omega
    have hjoined : Encoding.joined (0xD800 + (c.toNat - 0x10000) / 1024)
        (0xDC00 + (c.toNat - 0x10000) % 1024) = c := by
      have hcode : 0x10000 + (0xD800 + (c.toNat - 0x10000) / 1024 - 0xD800) * 1024 +
          (0xDC00 + (c.toNat - 0x10000) % 1024 - 0xDC00) = c.toNat := by omega
      rw [Encoding.joined, hcode, Char.ofNat_toNat]
    rw [List.append_assoc, readText_pair (by omega) (by omega) hhigh hlow, hjoined]

theorem readText_escapeChar (asciiOnly : Bool) (c : Char) (acc rest : List Char) :
    readText acc (escapeChar asciiOnly c ++ rest) = readText (c :: acc) rest := by
  simp only [escapeChar]
  split
  · rename_i letter h
    exact readText_letter (escapeLetter?_eq_some h)
  · rename_i h
    split_ifs with hescaped
    · exact readText_codeEscape
    · refine readText_plain ?_ ?_ ?_
      · rintro rfl
        cases h
      · rintro rfl
        cases h
      · simp only [Bool.or_eq_true, decide_eq_true_eq, not_or] at hescaped
        exact Nat.not_lt.mp hescaped.1

/-- A text is read up to its closing quotation mark. -/
theorem readText_escaped (asciiOnly : Bool) (cs acc rest : List Char) :
    readText acc (cs.flatMap (escapeChar asciiOnly) ++ '"' :: rest) =
      .ok (String.ofList (acc.reverse ++ cs), rest) := by
  induction cs generalizing acc with
  | nil => simp [readText]
  | cons c cs ih =>
    rw [List.flatMap_cons, List.append_assoc, readText_escapeChar, ih, List.reverse_cons,
      List.append_assoc, List.singleton_append]

theorem toList_quoted (asciiOnly : Bool) (s : String) :
    (quoted asciiOnly s).toList = '"' :: (s.toList.flatMap (escapeChar asciiOnly) ++ ['"']) := by
  rw [quoted, String.toList_ofList]

/-! ### Words -/

theorem readWord?_digit (negative : Bool) (rest : List Char) (h : c.isDigit = true) :
    readWord? ((if negative then ['-'] else []) ++ (c :: rest)) = none := by
  have hne (d : Char) (hd : d.isDigit = false) : (d == c) = false := by
    rw [beq_eq_false_iff_ne]
    rintro rfl
    rw [hd] at h
    cases h
  cases negative <;>
    simp [readWord?, words, afterWord?, hne 'n' rfl, hne 't' rfl, hne 'f' rfl, hne 'N' rfl,
      hne 'I' rfl, hne '-' rfl]

/-! ### Gaps -/

theorem skipGaps_cons (h : isGap c = false) : skipGaps (c :: rest) = c :: rest := by
  rw [skipGaps, List.dropWhile_cons_of_neg (by simp [h])]

theorem skipGaps_append {gap : List Char} (rest : List Char) (hgap : ∀ c ∈ gap, isGap c = true)
    (h : isGap c = false) : skipGaps (gap ++ c :: rest) = c :: rest := by
  rw [skipGaps, List.dropWhile_append_of_pos hgap, List.dropWhile_cons_of_neg (by simp [h])]

/-- A style whose gaps are gaps to the reader. -/
structure Style.Blank (style : Style) : Prop where
  item : ∀ c ∈ style.itemGap.toList, isGap c = true
  key : ∀ c ∈ style.keyGap.toList, isGap c = true

theorem Style.blank_of_all {style : Style} (hitem : style.itemGap.toList.all isGap = true)
    (hkey : style.keyGap.toList.all isGap = true) : style.Blank :=
  ⟨List.all_eq_true.mp hitem, List.all_eq_true.mp hkey⟩

theorem Style.blank_compact : Style.compact.Blank := blank_of_all (by decide) (by decide)

theorem Style.blank_spaced : Style.spaced.Blank := blank_of_all (by decide) (by decide)

/-! ### Values -/

/-- A value whose text says all about it: there are no fractions in it, no number is too long for the reader,
and no object has a key twice. -/
inductive Faithful : Json → Prop
  | null : Faithful .null
  | bool (b : Bool) : Faithful (.bool b)
  | int (n : Int) : (Nat.toDigits 10 n.natAbs).length ≤ maxDigits → Faithful (.int n)
  | text (s : String) : Faithful (.text s)
  | list (items : List Json) : (∀ v ∈ items, Faithful v) → Faithful (.list items)
  | object (fields : Fields) : (fields.map Prod.fst).Nodup → (∀ f ∈ fields, Faithful f.2) →
      Faithful (.object fields)

theorem numeral_int (z : Int) : Numeral (toString z).toList := by
  rw [toList_toString]
  refine numeral_append ?_ (numeral_toDigits _)
  cases decide (z < 0) <;> decide

theorem toString_ne_empty (z : Int) : toString z ≠ "" := by
  intro h
  have hlist := toList_toString z
  rw [h] at hlist
  simp [Nat.toDigits_ne_nil] at hlist

/-- How a number starts. -/
theorem numeral_start {s : String} (hs : Numeral s.toList) (hne : s ≠ "") :
    ∃ c cs, s.toList = c :: cs ∧ isGap c = false ∧ c ≠ ']' := by
  obtain ⟨c, cs, hcs⟩ := List.exists_cons_of_ne_nil (mt String.toList_eq_nil_iff.mp hne)
  have hc : isNumeral c = true := hs c (hcs ▸ List.mem_cons_self)
  exact ⟨c, cs, hcs, isGap_of_isNumeral hc, ne_of_isNumeral hc rfl⟩

/-- How the text of a value starts. -/
theorem print_start (style : Style) (v : Json) : ∃ c cs, (print style v).toList = c :: cs ∧
    isGap c = false ∧ c ≠ ']' := by
  cases v with
  | null => exact ⟨'n', _, by rw [print]; rfl, rfl, by decide⟩
  | bool b =>
    cases b with
    | true => exact ⟨'t', _, by rw [print]; rfl, rfl, by decide⟩
    | false => exact ⟨'f', _, by rw [print]; rfl, rfl, by decide⟩
  | int n =>
    rw [print]
    exact numeral_start (numeral_int n) (toString_ne_empty n)
  | real x =>
    rw [print]
    exact numeral_start (numeral_realText x) (realText_ne_empty x)
  | text s => exact ⟨_, _, toList_quoted _ s, rfl, by decide⟩
  | list items => exact ⟨_, _, by rw [print, String.toList_append]; rfl, rfl, by decide⟩
  | object fields => exact ⟨_, _, by rw [print, String.toList_append]; rfl, rfl, by decide⟩

/-- A value is read up to where its text ends, in as many steps as that takes. -/
def Reads (style : Style) (v : Json) : Prop :=
  ∀ (steps : Nat) (rest : List Char), 2 * (print style v).toList.length ≤ steps → Cut rest →
    readValue steps ((print style v).toList ++ rest) = .ok (v, rest)

theorem cut_of_eq (h : c = ',' ∨ c = ']' ∨ c = '\x7d') : Cut (c :: rest) := by
  intro d hd
  cases hd
  rcases h with rfl | rfl | rfl <;> decide

theorem readValue_of_cons {steps : Nat} {cs : List Char} (hquote : c ≠ '"') (hlist : c ≠ '[')
    (hobject : c ≠ '\x7b') : readValue (steps + 1) (c :: cs) =
      match readWord? (c :: cs) with
      | some found => .ok found
      | none => readNumber (c :: cs) := by
  rw [readValue.eq_def]
  simp only
  split
  · rename_i h
    cases h
    exact absurd rfl hquote
  · rename_i h
    cases h
    exact absurd rfl hlist
  · rename_i h
    cases h
    exact absurd rfl hobject
  · rfl

theorem reads_null : Reads style .null := by
  intro steps rest hsteps _
  rw [print] at hsteps ⊢
  obtain _ | steps := steps
  · cases hsteps
  · rfl

theorem reads_bool (b : Bool) : Reads style (.bool b) := by
  intro steps rest hsteps _
  cases b with
  | true =>
    rw [print] at hsteps ⊢
    obtain _ | steps := steps
    · cases hsteps
    · rfl
  | false =>
    rw [print] at hsteps ⊢
    obtain _ | steps := steps
    · cases hsteps
    · rfl

theorem reads_text (s : String) : Reads style (.text s) := by
  intro steps rest hsteps _
  obtain _ | steps := steps
  · rw [print, toList_quoted, List.length_cons] at hsteps
    cases hsteps
  · rw [print, toList_quoted, List.cons_append, List.append_assoc, List.singleton_append]
    simp only [readValue, readText_escaped, List.reverse_nil, List.nil_append, String.ofList_toList]
    rfl

theorem readValue_int {z : Int} (hz : (Nat.toDigits 10 z.natAbs).length ≤ maxDigits) (steps : Nat)
    (hrest : Cut rest) : readValue (steps + 1) ((print style (.int z)).toList ++ rest) =
      .ok (.int z, rest) := by
  rw [print, toList_toString, List.append_assoc]
  have hread := readNumber_toDigits (decide (z < 0)) hz hrest
  rw [signed_natAbs] at hread
  obtain ⟨c, cs, hcs⟩ := List.exists_cons_of_ne_nil (Nat.toDigits_ne_nil (n := z.natAbs) (b := 10))
  have hdigit : c.isDigit = true :=
    Nat.isDigit_of_mem_toDigits (b := 10) (n := z.natAbs) (by decide) (by decide)
      (hcs ▸ List.mem_cons_self ..)
  rw [hcs] at hread ⊢
  have hword := readWord?_digit (decide (z < 0)) (cs ++ rest) hdigit
  have hne (d : Char) (hd : d.isDigit = false) : c ≠ d := by
    rintro rfl
    rw [hd] at hdigit
    cases hdigit
  cases hneg : decide (z < 0) <;>
    rw [hneg] at hread hword <;>
    simp only [Bool.false_eq_true, ↓reduceIte, List.nil_append, List.cons_append] at hread hword ⊢
  · rw [readValue_of_cons (hne _ rfl) (hne _ rfl) (hne _ rfl), hword]
    exact hread
  · rw [readValue_of_cons (by decide) (by decide) (by decide), hword]
    exact hread

theorem reads_int {z : Int} (hz : (Nat.toDigits 10 z.natAbs).length ≤ maxDigits) :
    Reads style (.int z) := by
  intro steps rest hsteps hrest
  obtain _ | steps := steps
  · obtain ⟨c, cs, hstart, -⟩ := print_start style (.int z)
    rw [hstart] at hsteps
    cases hsteps
  · exact readValue_int hz steps hrest

/-! ### Lists and objects -/

theorem toList_printItems_one (style : Style) (v : Json) :
    (printItems style [v]).toList = (print style v).toList := by
  rw [printItems]

theorem toList_printItems_more (style : Style) (v w : Json) (more : List Json) :
    (printItems style (v :: w :: more)).toList = (print style v).toList ++
      ',' :: (style.itemGap.toList ++ (printItems style (w :: more)).toList) := by
  rw [printItems, String.toList_append, String.toList_append, String.toList_append, List.append_assoc]
  · rfl
  · exact nofun

theorem toList_print_list (style : Style) (items : List Json) :
    (print style (.list items)).toList = '[' :: ((printItems style items).toList ++ [']']) := by
  rw [print, String.toList_append, String.toList_append]
  rfl

theorem toList_printFields_one (style : Style) (key : String) (v : Json) :
    (printFields style [(key, v)]).toList = (quoted style.asciiOnly key).toList ++
      ':' :: (style.keyGap.toList ++ (print style v).toList) := by
  rw [printFields, String.toList_append, String.toList_append, String.toList_append, List.append_assoc]
  rfl

theorem toList_printFields_more (style : Style) (key : String) (v : Json) (f : String × Json)
    (more : Fields) :
    (printFields style ((key, v) :: f :: more)).toList = (quoted style.asciiOnly key).toList ++
      ':' :: (style.keyGap.toList ++ ((print style v).toList ++
        ',' :: (style.itemGap.toList ++ (printFields style (f :: more)).toList))) := by
  rw [printFields]
  · simp only [String.toList_append, List.append_assoc]
    rfl
  · exact nofun

theorem toList_print_object (style : Style) (fields : Fields) :
    (print style (.object fields)).toList = '\x7b' :: ((printFields style fields).toList ++ ['\x7d']) := by
  rw [print, String.toList_append, String.toList_append]
  rfl

theorem readItems_last {v : Json} {done : List Json} {steps : Nat} {cs : List Char}
    (h : readValue steps cs = .ok (v, ']' :: rest)) :
    readItems (steps + 1) done cs = .ok (.list (done.reverse ++ [v]), rest) := by
  simp [readItems, h, bind, Except.bind, pure, Except.pure, skipGaps_cons (show isGap ']' = false by rfl)]

theorem readItems_more {v : Json} {done : List Json} {steps : Nat} {cs : List Char}
    (h : readValue steps cs = .ok (v, ',' :: rest)) :
    readItems (steps + 1) done cs = readItems steps (v :: done) (skipGaps rest) := by
  simp [readItems, h, bind, Except.bind, skipGaps_cons (show isGap ',' = false by rfl)]

theorem printItems_start (style : Style) (v : Json) (more : List Json) :
    ∃ c cs, (printItems style (v :: more)).toList = c :: cs ∧ isGap c = false ∧ c ≠ ']' := by
  obtain ⟨c, cs, hcs, hc⟩ := print_start style v
  cases more with
  | nil => exact ⟨c, cs, by rw [toList_printItems_one, hcs], hc⟩
  | cons w more => exact ⟨c, _, by rw [toList_printItems_more, hcs, List.cons_append], hc⟩

/-- The items of a list are read one after the other. -/
theorem readItems_print (hstyle : style.Blank) {items : List Json} (hne : items ≠ [])
    (hitems : ∀ v ∈ items, Reads style v) {steps : Nat} (done : List Json)
    (rest : List Char) (hsteps : 2 * (printItems style items).toList.length < steps) :
    readItems steps done ((printItems style items).toList ++ ']' :: rest) =
      .ok (.list (done.reverse ++ items), rest) := by
  induction items generalizing steps done with
  | nil => cases hne rfl
  | cons v more ih =>
    have hread := hitems v (List.mem_cons_self ..)
    obtain _ | steps := steps
    · cases hsteps
    cases more with
    | nil =>
      rw [toList_printItems_one] at hsteps ⊢
      exact readItems_last (hread steps _ (by omega) (cut_of_eq (by simp)))
    | cons w more =>
      have hmore : ∀ x ∈ w :: more, Reads style x :=
        fun x hx => hitems x (List.mem_cons_of_mem _ hx)
      obtain ⟨c, cs, hstart, hgap, -⟩ := printItems_start style w more
      rw [toList_printItems_more] at hsteps ⊢
      simp only [List.length_append, List.length_cons] at hsteps
      rw [List.append_assoc, List.cons_append, List.append_assoc,
        readItems_more (hread steps _ (by omega) (cut_of_eq (by simp)))]
      have hskip := skipGaps_append (cs ++ ']' :: rest) hstyle.item hgap
      rw [← List.cons_append, ← hstart] at hskip
      rw [hskip, ih (by simp) hmore (v :: done) (by omega), List.reverse_cons, List.append_assoc,
        List.singleton_append]

theorem readFields_last {key : String} {v : Json} {done : Fields} {steps : Nat} {cs next : List Char}
    (hkey : readText [] cs = .ok (key, ':' :: next))
    (h : readValue steps (skipGaps next) = .ok (v, '\x7d' :: rest)) :
    readFields (steps + 1) done ('"' :: cs) =
      .ok (.object (Fields.ofPairs (done.reverse ++ [(key, v)])), rest) := by
  simp [readFields, hkey, h, bind, Except.bind, pure, Except.pure,
    skipGaps_cons (show isGap ':' = false by rfl), skipGaps_cons (show isGap '\x7d' = false by rfl)]

theorem readFields_more {key : String} {v : Json} {done : Fields} {steps : Nat} {cs next : List Char}
    (hkey : readText [] cs = .ok (key, ':' :: next))
    (h : readValue steps (skipGaps next) = .ok (v, ',' :: rest)) :
    readFields (steps + 1) done ('"' :: cs) = readFields steps ((key, v) :: done) (skipGaps rest) := by
  simp [readFields, hkey, h, bind, Except.bind,
    skipGaps_cons (show isGap ':' = false by rfl), skipGaps_cons (show isGap ',' = false by rfl)]

theorem printFields_start (style : Style) (f : String × Json) (more : Fields) :
    ∃ cs, (printFields style (f :: more)).toList = '"' :: cs := by
  obtain ⟨key, v⟩ := f
  cases more with
  | nil => exact ⟨_, by rw [toList_printFields_one, toList_quoted, List.cons_append]⟩
  | cons g more => exact ⟨_, by rw [toList_printFields_more, toList_quoted, List.cons_append]⟩

/-- A key and its value are read up to what follows them. -/
theorem readKey_print (asciiOnly : Bool) (key : String) (next : List Char) :
    ∃ cs, (quoted asciiOnly key).toList ++ next = '"' :: cs ∧ readText [] cs = .ok (key, next) := by
  refine ⟨_, by rw [toList_quoted, List.cons_append, List.append_assoc, List.singleton_append], ?_⟩
  rw [readText_escaped, List.reverse_nil, List.nil_append, String.ofList_toList]

/-- The fields of an object are read one after the other. -/
theorem readFields_print (hstyle : style.Blank) {fields : Fields} (hne : fields ≠ [])
    (hfields : ∀ f ∈ fields, Reads style f.2) {steps : Nat} (done : Fields)
    (rest : List Char) (hsteps : 2 * (printFields style fields).toList.length < steps) :
    readFields steps done ((printFields style fields).toList ++ '\x7d' :: rest) =
      .ok (.object (Fields.ofPairs (done.reverse ++ fields)), rest) := by
  induction fields generalizing steps done with
  | nil => cases hne rfl
  | cons f more ih =>
    obtain ⟨key, v⟩ := f
    have hread : Reads style v := hfields (key, v) (List.mem_cons_self ..)
    obtain ⟨c, cs, hstart, hgap, -⟩ := print_start style v
    have hskip (next : List Char) : skipGaps (style.keyGap.toList ++ ((print style v).toList ++ next)) =
        (print style v).toList ++ next := by
      rw [hstart, List.cons_append]
      exact skipGaps_append _ hstyle.key hgap
    obtain _ | steps := steps
    · cases hsteps
    cases more with
    | nil =>
      rw [toList_printFields_one] at hsteps ⊢
      simp only [List.length_append, List.length_cons] at hsteps
      rw [List.append_assoc, List.cons_append, List.append_assoc]
      obtain ⟨cs', hquoted, hkey⟩ := readKey_print style.asciiOnly key
        (':' :: (style.keyGap.toList ++ ((print style v).toList ++ '\x7d' :: rest)))
      rw [hquoted]
      refine readFields_last hkey ?_
      rw [hskip]
      exact hread steps _ (by omega) (cut_of_eq (by simp))
    | cons g more =>
      obtain ⟨cs', hmore⟩ := printFields_start style g more
      rw [toList_printFields_more] at hsteps ⊢
      simp only [List.length_append, List.length_cons] at hsteps
      simp only [List.append_assoc, List.cons_append]
      obtain ⟨cs'', hquoted, hkey⟩ := readKey_print style.asciiOnly key
        (':' :: (style.keyGap.toList ++ ((print style v).toList ++ ',' :: (style.itemGap.toList ++
          ((printFields style (g :: more)).toList ++ '\x7d' :: rest)))))
      have hvalue : readValue steps (skipGaps (style.keyGap.toList ++ ((print style v).toList ++
          ',' :: (style.itemGap.toList ++ ((printFields style (g :: more)).toList ++ '\x7d' :: rest))))) =
          .ok (v, ',' :: (style.itemGap.toList ++
            ((printFields style (g :: more)).toList ++ '\x7d' :: rest))) := by
        rw [hskip]
        exact hread steps _ (by omega) (cut_of_eq (by simp))
      have hnext := skipGaps_append (c := '"') (cs' ++ '\x7d' :: rest) hstyle.item rfl
      rw [← List.cons_append, ← hmore] at hnext
      rw [hquoted, readFields_more hkey hvalue, hnext,
        ih (by simp) (fun x hx => hfields x (List.mem_cons_of_mem _ hx)) _ (by omega),
        List.reverse_cons, List.append_assoc, List.singleton_append]

theorem set_of_not_mem {done : Fields} {key : String} {v : Json} (h : key ∉ done.map Prod.fst) :
    Fields.set done key v = done ++ [(key, v)] := by
  have hnew : ¬done.any (·.1 == key) = true := by
    rw [List.any_eq_true]
    rintro ⟨f, hf, heq⟩
    exact h (List.mem_map.mpr ⟨f, hf, by simpa using heq⟩)
  rw [Fields.set, if_neg hnew]

theorem ofPairs_of_nodup {fields : Fields} (h : (fields.map Prod.fst).Nodup) :
    Fields.ofPairs fields = fields := by
  have hfold : ∀ (more done : Fields), ((done ++ more).map Prod.fst).Nodup →
      more.foldl (fun fs p => Fields.set fs p.1 p.2) done = done ++ more := by
    intro more
    induction more with
    | nil => intro done _; rw [List.foldl_nil, List.append_nil]
    | cons f more ih =>
      intro done hd
      have hnew : f.1 ∉ done.map Prod.fst := by
        rw [List.map_append, List.nodup_append] at hd
        intro hf
        exact hd.2.2 _ hf _ (List.mem_cons_self ..) rfl
      rw [List.foldl_cons, set_of_not_mem hnew, ih _ (by rwa [List.append_assoc]),
        List.append_assoc]
      rfl
  exact hfold fields [] h

/-- What is printed of a value is read as that value. -/
theorem reads_of_faithful (hstyle : style.Blank) {v : Json} (h : Faithful v) : Reads style v := by
  induction h with
  | null => exact reads_null
  | bool b => exact reads_bool b
  | int n hn => exact reads_int hn
  | text s => exact reads_text s
  | list items hitems ih =>
    intro steps rest hsteps _
    rw [toList_print_list] at hsteps ⊢
    simp only [List.length_append, List.length_cons] at hsteps
    obtain _ | steps := steps
    · cases hsteps
    rw [List.cons_append, List.append_assoc, List.singleton_append]
    cases items with
    | nil => rfl
    | cons v more =>
      obtain ⟨c, cs, hstart, hgap, hclose⟩ := printItems_start style v more
      have hlen : 2 * (printItems style (v :: more)).toList.length < steps := by omega
      have hread := readItems_print hstyle (List.cons_ne_nil v more) ih [] rest hlen
      rw [hstart, List.cons_append] at hread ⊢
      simp [readValue, skipGaps_cons hgap, hclose, hread]
  | object fields hkeys hfields ih =>
    intro steps rest hsteps _
    rw [toList_print_object] at hsteps ⊢
    simp only [List.length_append, List.length_cons] at hsteps
    obtain _ | steps := steps
    · cases hsteps
    rw [List.cons_append, List.append_assoc, List.singleton_append]
    cases fields with
    | nil => rfl
    | cons f more =>
      obtain ⟨cs, hstart⟩ := printFields_start style f more
      have hlen : 2 * (printFields style (f :: more)).toList.length < steps := by omega
      have hread := readFields_print hstyle (List.cons_ne_nil f more) ih [] rest hlen
      rw [List.reverse_nil, List.nil_append, ofPairs_of_nodup hkeys] at hread
      rw [hstart, List.cons_append] at hread ⊢
      simp [readValue, skipGaps_cons (show isGap '"' = false by rfl), hread]

/-- The text of a value, with nothing around it, denotes that value. -/
theorem read_print (hstyle : style.Blank) {v : Json} (h : Faithful v) :
    read (print style v) = .ok v := by
  obtain ⟨c, cs, hstart, hgap, -⟩ := print_start style v
  have hskip : skipGaps (print style v).toList = (print style v).toList := by
    rw [hstart]
    exact skipGaps_cons hgap
  have hread := reads_of_faithful hstyle h (2 * (print style v).toList.length + 1) []
    (Nat.le_succ _) nofun
  rw [List.append_nil] at hread
  have hend : skipGaps [] = [] := rfl
  simp [read, hskip, hread, hend, bind, Except.bind, pure, Except.pure]

end PayoutRegistry.Json
