import PayoutRegistry.Json.Printer
import PayoutRegistry.Json.Reader
import Mathlib.Data.List.TakeDrop
import Mathlib.Data.List.TakeWhile
import Mathlib.Tactic.SplitIfs

/-!
The characters of numbers and words in JSON texts. Numbers are written with nothing else, and where a number or
a word is expected the reader takes nothing else.
-/
namespace PayoutRegistry

/-- The character can be part of a number or of a word that stands for a value. -/
def Json.isNumeral (c : Char) : Bool := c.isAlphanum || c == '.' || c == '-' || c == '+'

/-- Every character can be part of a number. -/
def Json.Numeral (cs : List Char) : Prop := ∀ c ∈ cs, isNumeral c = true

instance (cs : List Char) : Decidable (Json.Numeral cs) := List.decidableBAll _ cs

/-! ### Numbers as they are written -/

namespace Json

variable {s t : String} {c : Char}

theorem numeral_append {cs ds : List Char} (hcs : Numeral cs) (hds : Numeral ds) :
    Numeral (cs ++ ds) := by
  intro c hc
  rcases List.mem_append.mp hc with hc | hc
  · exact hcs c hc
  · exact hds c hc

theorem numeral_concat (hs : Numeral s.toList) (ht : Numeral t.toList) : Numeral (s ++ t).toList := by
  rw [String.toList_append]
  exact numeral_append hs ht

theorem ne_of_isNumeral {d : Char} (hc : isNumeral c = true) (hd : isNumeral d = false) : c ≠ d := by
  rintro rfl
  rw [hc] at hd
  cases hd

theorem isGap_of_isNumeral (h : isNumeral c = true) : isGap c = false := by
  have hne (d : Char) (hd : isNumeral d = false) : (c == d) = false :=
    beq_eq_false_iff_ne.mpr (ne_of_isNumeral h hd)
  simp only [isGap, hne ' ' rfl, hne '\t' rfl, hne '\n' rfl, hne '\r' rfl, Bool.or_self]

theorem isNumeral_of_isDigit (h : c.isDigit = true) : isNumeral c = true := by
  simp [isNumeral, Char.isAlphanum, h]

theorem numeral_toDigits (n : Nat) : Numeral (Nat.toDigits 10 n) := fun _ hc =>
  isNumeral_of_isDigit (Nat.isDigit_of_mem_toDigits (by decide) (by decide) hc)

theorem numeral_toString (n : Nat) : Numeral (toString n).toList := by
  rw [Nat.toString_eq_repr, Nat.toList_repr]
  exact numeral_toDigits n

/-- A piece of a text has no other characters than the text. -/
theorem numeral_take (hs : Numeral s.toList) (n : Nat) : Numeral (s.take n).copy.toList := by
  have hsplit := (s.toSlice.startPos.nextn n).splits.eq_append
  rw [String.copy_toSlice] at hsplit
  intro c hc
  refine hs c ?_
  rw [hsplit, String.toList_append]
  exact List.mem_append_left _ hc

theorem numeral_drop (hs : Numeral s.toList) (n : Nat) : Numeral (s.drop n).copy.toList := by
  have hsplit := (s.toSlice.startPos.nextn n).splits.eq_append
  rw [String.copy_toSlice] at hsplit
  intro c hc
  refine hs c ?_
  rw [hsplit, String.toList_append]
  exact List.mem_append_right _ hc

end Json

namespace Binary64

open Json

theorem numeral_zeros (n : Nat) : Numeral (zeros n).toList := by
  intro c hc
  rw [zeros, String.toList_ofList] at hc
  rw [List.eq_of_mem_replicate hc]
  rfl

theorem numeral_exponentMark (n : Int) : Numeral (exponentMark n).toList := by
  have hsign : Numeral (if n < 0 then "-" else "+").toList := by split <;> decide
  have he : Numeral "e".toList := by decide
  exact numeral_concat (numeral_concat (numeral_concat he hsign) (numeral_zeros _))
    (numeral_toString _)

theorem numeral_layout (d : Decimal) : Numeral (layout d).toList := by
  have hdigits := numeral_toString d.digits
  have hpoint : Numeral ".".toList := by decide
  have htail : Numeral ".0".toList := by decide
  have hhead : Numeral "0.".toList := by decide
  have hcut (n : Nat) : Numeral
      (((toString d.digits).take n).copy ++ "." ++ ((toString d.digits).drop n).copy).toList :=
    numeral_concat (numeral_concat (numeral_take hdigits n) hpoint) (numeral_drop hdigits n)
  simp only [layout]
  split_ifs
  · exact numeral_concat (numeral_concat hdigits (numeral_zeros _)) htail
  · exact hcut _
  · exact numeral_concat (numeral_concat hhead (numeral_zeros _)) hdigits
  · exact numeral_concat hdigits (numeral_exponentMark _)
  · exact numeral_concat (hcut 1) (numeral_exponentMark _)

theorem layout_ne_empty (d : Decimal) : layout d ≠ "" := by
  simp only [layout, exponentMark]
  split_ifs <;> simp

theorem text_ne_empty (x : Binary64) : x.text ≠ "" := by
  cases x with
  | nan => decide
  | infinite negative => cases negative <;> decide
  | finite negative m e =>
    simp only [text]
    split_ifs <;> simp [layout_ne_empty]

theorem numeral_text (x : Binary64) : Numeral x.text.toList := by
  cases x with
  | nan => decide
  | infinite negative => cases negative <;> decide
  | finite negative m e =>
    have hsign : Numeral (if negative then "-" else "").toList := by cases negative <;> decide
    have hsize : Numeral (if m = 0 then "0.0" else layout (shortest m e)).toList := by
      split
      · decide
      · exact numeral_layout _
    exact numeral_concat hsign hsize

end Binary64

theorem Json.numeral_realText (x : Binary64) : Numeral (realText x).toList := by
  cases x with
  | nan => decide
  | infinite negative => cases negative <;> decide
  | finite => exact Binary64.numeral_text _

theorem Json.realText_ne_empty (x : Binary64) : realText x ≠ "" := by
  cases x with
  | nan => decide
  | infinite negative => cases negative <;> decide
  | finite negative m e => exact Binary64.text_ne_empty (.finite negative m e)

/-! ### Numbers as they are read -/

namespace Json

/-- The reader took nothing but characters of numbers to get from one text to the other. -/
def Takes (cs out : List Char) : Prop := ∃ taken, cs = taken ++ out ∧ Numeral taken

variable {cs ds out rest : List Char}

theorem takes_self (cs : List Char) : Takes cs cs := ⟨[], rfl, nofun⟩

theorem Takes.trans (h : Takes cs ds) (h' : Takes ds out) : Takes cs out := by
  obtain ⟨taken, rfl, hn⟩ := h
  obtain ⟨taken', rfl, hn'⟩ := h'
  exact ⟨taken ++ taken', (List.append_assoc ..).symm, numeral_append hn hn'⟩

theorem takes_cons {c : Char} (hc : isNumeral c = true) (cs : List Char) : Takes (c :: cs) cs :=
  ⟨[c], rfl, by simpa [Numeral] using hc⟩

theorem takes_span (cs : List Char) : Takes cs (cs.span Char.isDigit).2 := by
  rw [List.span_eq_takeWhile_dropWhile]
  refine ⟨cs.takeWhile Char.isDigit, List.takeWhile_append_dropWhile.symm, ?_⟩
  intro c hc
  exact isNumeral_of_isDigit (List.mem_takeWhile_imp hc)

theorem takes_readWhole (cs : List Char) : Takes cs (readWhole cs).2 := by
  simp only [readWhole]
  split
  · exact takes_cons rfl _
  · exact takes_span cs

theorem takes_readFraction (cs : List Char) : Takes cs (readFraction cs).2 := by
  simp only [readFraction]
  split
  · rename_i rest
    split
    · exact takes_self _
    · rename_i digits after _ hspan
      have h := takes_span rest
      rw [hspan] at h
      exact (takes_cons rfl rest).trans h
  · exact takes_self cs

theorem takes_readExponent (cs : List Char) : Takes cs (readExponent cs).2 := by
  cases cs with
  | nil => exact takes_self []
  | cons mark rest =>
    simp only [readExponent]
    split
    · rename_i hmark
      have hstart : isNumeral mark = true := by
        simp only [Bool.or_eq_true, beq_iff_eq] at hmark
        rcases hmark with rfl | rfl <;> rfl
      split
      · exact takes_self _
      · rename_i digits last _ hspan
        have hlast := congrArg Prod.snd hspan ▸ takes_span _
        refine ((takes_cons hstart rest).trans ?_).trans hlast
        -- The digits may have a sign.
        split
        · exact takes_cons rfl _
        · exact takes_cons rfl _
        · exact takes_self _
    · exact takes_self _

theorem takes_readNumber {v : Json} (h : readNumber cs = .ok (v, out)) : Takes cs out := by
  simp only [readNumber] at h
  split at h
  · cases h
  · rename_i whole rest _ hwhole
    have hrest := congrArg Prod.snd hwhole ▸ takes_readWhole _
    have hend : out = (readExponent (readFraction rest).2).2 := by
      split_ifs at h <;> cases h <;> rfl
    rw [hend]
    refine ((Takes.trans ?_ hrest).trans (takes_readFraction rest)).trans (takes_readExponent _)
    split
    · exact takes_cons rfl _
    · exact takes_self _

theorem takes_afterWord {word : List Char} (hword : Numeral word)
    (h : afterWord? word cs = some out) : Takes cs out := by
  induction word generalizing cs with
  | nil =>
    obtain rfl := Option.some.inj h
    exact takes_self cs
  | cons w word ih =>
    cases cs with
    | nil => cases h
    | cons c cs =>
      simp only [afterWord?] at h
      split_ifs at h with hsame
      obtain rfl : w = c := by simpa using hsame
      have hw : isNumeral w = true := hword w List.mem_cons_self
      exact (takes_cons hw cs).trans (ih (fun d hd => hword d (List.mem_cons_of_mem _ hd)) h)

theorem takes_readWord {v : Json} (h : readWord? cs = some (v, out)) : Takes cs out := by
  obtain ⟨⟨word, value⟩, hmem, hafter⟩ := List.exists_of_findSome?_eq_some h
  obtain ⟨out', hout, heq⟩ := Option.map_eq_some_iff.mp hafter
  cases heq
  have hwords : ∀ w ∈ words, Numeral w.1 := by
    simp only [words, List.forall_mem_cons]
    decide
  exact takes_afterWord (hwords _ hmem) hout

/-- The reader that takes characters of numbers stops inside a numeral or at its end. -/
theorem Takes.stops (h : Takes (cs ++ rest) out) (hrest : ∀ c ∈ rest.head?, isNumeral c = false)
    (hcs : Numeral cs) : out = rest ∨ ∃ c more, out = c :: more ∧ isNumeral c = true := by
  obtain ⟨taken, heq, hn⟩ := h
  rcases List.append_eq_append_iff.mp heq with ⟨left, rfl, rfl⟩ | ⟨left, rfl, rfl⟩
  · cases left with
    | nil => exact Or.inl rfl
    | cons c left =>
      have hc : isNumeral c = true := hn c (List.mem_append_right _ List.mem_cons_self)
      rw [hrest c rfl] at hc
      cases hc
  · cases left with
    | nil => exact Or.inl rfl
    | cons c left =>
      exact Or.inr ⟨c, _, rfl, hcs c (List.mem_append_right _ List.mem_cons_self)⟩

end Json

end PayoutRegistry
