import PayoutRegistry.Proofs.JsonText

/-!
The grammar of JSON texts. Its numbers are all finite, and control characters occur only in the gaps between
the parts of a text. Which characters make a gap is left open here; what is printed has no other gaps than the
style says.
-/
namespace PayoutRegistry.Json

/-! ### Numbers and texts -/

/-- Digits, at least one. -/
structure IsDigits (cs : List Char) : Prop where
  nonempty : cs ≠ []
  each : ∀ c ∈ cs, c.isDigit = true

/-- The whole part of a number. Nothing but zero starts with a zero. -/
inductive IsWhole : List Char → Prop
  | zero : IsWhole ['0']
  | positive {cs : List Char} (digits : IsDigits cs) (front : cs.head? ≠ some '0') : IsWhole cs

inductive IsFraction : List Char → Prop
  | none : IsFraction []
  | some {cs : List Char} (digits : IsDigits cs) : IsFraction ('.' :: cs)

inductive IsExponent : List Char → Prop
  | none : IsExponent []
  | some {mark : Char} {sign cs : List Char} (hmark : mark ∈ ['e', 'E']) (hsign : sign ∈ [[], ['+'], ['-']])
      (digits : IsDigits cs) : IsExponent (mark :: (sign ++ cs))

inductive IsNumber : List Char → Prop
  | mk {sign whole fraction exponent : List Char} (hsign : sign ∈ [[], ['-']]) (hwhole : IsWhole whole)
      (hfraction : IsFraction fraction) (hexponent : IsExponent exponent) :
      IsNumber (sign ++ (whole ++ (fraction ++ exponent)))

/-- What stands between the quotation marks of a text. -/
inductive IsInside : List Char → Prop
  | nil : IsInside []
  | char {c : Char} {cs : List Char} (hquote : c ≠ '"') (hback : c ≠ '\\') (hc : 0x20 ≤ c.toNat)
      (more : IsInside cs) : IsInside (c :: cs)
  | letter {c : Char} {cs : List Char} (hc : c ∈ ['"', '\\', '/', 'b', 'f', 'n', 'r', 't'])
      (more : IsInside cs) : IsInside ('\\' :: c :: cs)
  | unit {a b c d : Char} {cs : List Char} (hdigits : ∀ x ∈ [a, b, c, d], (hexValue? x).isSome = true)
      (more : IsInside cs) : IsInside ('\\' :: 'u' :: a :: b :: c :: d :: cs)

inductive IsText : List Char → Prop
  | mk {cs : List Char} (inside : IsInside cs) : IsText ('"' :: (cs ++ ['"']))

/-! ### Values -/

/-- The characters all make a gap. -/
def IsBlank (gap : Char → Bool) (cs : List Char) : Prop := ∀ c ∈ cs, gap c = true

mutual

/-- A value, with gaps around it or none. -/
inductive IsValue (gap : Char → Bool) : List Char → Prop
  | null : IsValue gap ['n', 'u', 'l', 'l']
  | yes : IsValue gap ['t', 'r', 'u', 'e']
  | no : IsValue gap ['f', 'a', 'l', 's', 'e']
  | number {cs : List Char} (h : IsNumber cs) : IsValue gap cs
  | text {cs : List Char} (h : IsText cs) : IsValue gap cs
  | emptyList {between : List Char} (hgap : IsBlank gap between) : IsValue gap ('[' :: (between ++ [']']))
  | list {cs : List Char} (h : IsItems gap cs) : IsValue gap ('[' :: (cs ++ [']']))
  | object {cs : List Char} (h : IsObject gap cs) : IsValue gap cs
  | padded {before cs after : List Char} (hbefore : IsBlank gap before) (h : IsValue gap cs)
      (hafter : IsBlank gap after) : IsValue gap (before ++ (cs ++ after))

inductive IsItems (gap : Char → Bool) : List Char → Prop
  | last {cs : List Char} (h : IsValue gap cs) : IsItems gap cs
  | more {cs ds : List Char} (h : IsValue gap cs) (more : IsItems gap ds) : IsItems gap (cs ++ ',' :: ds)

inductive IsObject (gap : Char → Bool) : List Char → Prop
  | empty {between : List Char} (hgap : IsBlank gap between) :
      IsObject gap ('\x7b' :: (between ++ ['\x7d']))
  | fields {cs : List Char} (h : IsFields gap cs) : IsObject gap ('\x7b' :: (cs ++ ['\x7d']))

inductive IsFields (gap : Char → Bool) : List Char → Prop
  | last {cs : List Char} (h : IsField gap cs) : IsFields gap cs
  | more {cs ds : List Char} (h : IsField gap cs) (more : IsFields gap ds) :
      IsFields gap (cs ++ ',' :: ds)

/-- A key and its value. -/
inductive IsField (gap : Char → Bool) : List Char → Prop
  | mk {before key after cs : List Char} (hbefore : IsBlank gap before) (hkey : IsText key)
      (hafter : IsBlank gap after) (hvalue : IsValue gap cs) :
      IsField gap (before ++ (key ++ (after ++ ':' :: cs)))

end

/-! ### Control characters -/

/-- There is no control character below the blank. -/
def Visible (cs : List Char) : Prop := ∀ c ∈ cs, 0x20 ≤ c.toNat

instance (cs : List Char) : Decidable (Visible cs) := List.decidableBAll _ cs

variable {gap : Char → Bool} {style : Style} {c : Char} {cs ds : List Char} {v : Json} {n : Nat}

theorem visible_append : Visible (cs ++ ds) ↔ Visible cs ∧ Visible ds := List.forall_mem_append

theorem visible_cons : Visible (c :: cs) ↔ 0x20 ≤ c.toNat ∧ Visible cs := List.forall_mem_cons

theorem visible_nil : Visible [] := nofun

/-- Opening and closing marks are visible. -/
theorem visible_between {first last : Char} (hfirst : 0x20 ≤ first.toNat) (hlast : 0x20 ≤ last.toNat)
    (h : Visible cs) : Visible (first :: (cs ++ [last])) :=
  visible_cons.mpr ⟨hfirst, visible_append.mpr ⟨h, visible_cons.mpr ⟨hlast, visible_nil⟩⟩⟩

theorem le_of_isDigit (h : c.isDigit = true) : 0x20 ≤ c.toNat := by
  simp only [Char.isDigit, Bool.and_eq_true, decide_eq_true_eq] at h
  have hlow : (48 : UInt32).toNat ≤ c.toNat := h.1
  exact Nat.le_trans (by decide) hlow

theorem IsDigits.visible (h : IsDigits cs) : Visible cs := fun c hc => le_of_isDigit (h.each c hc)

theorem IsNumber.visible (h : IsNumber cs) : Visible cs := by
  obtain ⟨hsign, hwhole, hfraction, hexponent⟩ := h
  refine visible_append.mpr ⟨?_, visible_append.mpr ⟨?_, visible_append.mpr ⟨?_, ?_⟩⟩⟩
  · have hsigns : ∀ sign ∈ [[], ['-']], Visible sign := by decide
    exact hsigns _ hsign
  · cases hwhole with
    | zero => decide
    | positive digits => exact digits.visible
  · cases hfraction with
    | none => exact visible_nil
    | some digits => exact visible_cons.mpr ⟨by decide, digits.visible⟩
  · cases hexponent with
    | none => exact visible_nil
    | some hmark hsign digits =>
      have hmarks : Visible ['e', 'E'] := by decide
      have hsigns : ∀ sign ∈ [[], ['+'], ['-']], Visible sign := by decide
      exact visible_cons.mpr ⟨hmarks _ hmark, visible_append.mpr ⟨hsigns _ hsign, digits.visible⟩⟩

theorem le_of_hexValue? (h : (hexValue? c).isSome = true) : 0x20 ≤ c.toNat := by
  simp only [hexValue?] at h
  split_ifs at h with h₁ h₂ h₃
  · exact Nat.le_trans (by decide) h₁.1
  · exact Nat.le_trans (by decide) h₂.1
  · exact Nat.le_trans (by decide) h₃.1
  · cases h

theorem IsInside.visible (h : IsInside cs) : Visible cs := by
  induction h with
  | nil => exact visible_nil
  | char _ _ hc _ ih => exact visible_cons.mpr ⟨hc, ih⟩
  | letter hc _ ih =>
    have hletters : Visible ['"', '\\', '/', 'b', 'f', 'n', 'r', 't'] := by decide
    exact visible_cons.mpr ⟨by decide, visible_cons.mpr ⟨hletters _ hc, ih⟩⟩
  | @unit a b c d cs hdigits _ ih =>
    have hunit : Visible [a, b, c, d] := fun x hx => le_of_hexValue? (hdigits x hx)
    have hmore : Visible ([a, b, c, d] ++ cs) := visible_append.mpr ⟨hunit, ih⟩
    exact visible_cons.mpr ⟨by decide, visible_cons.mpr ⟨by decide, hmore⟩⟩

theorem IsText.visible (h : IsText cs) : Visible cs := by
  obtain ⟨inside⟩ := h
  exact visible_between (by decide) (by decide) inside.visible

theorem IsBlank.visible (hgap : ∀ c, gap c = true → 0x20 ≤ c.toNat) (h : IsBlank gap cs) : Visible cs :=
  fun c hc => hgap c (h c hc)

mutual

/-- Where no gap is a control character, there is none in a value. -/
theorem IsValue.visible (hgap : ∀ c, gap c = true → 0x20 ≤ c.toNat) :
    ∀ {cs : List Char}, IsValue gap cs → Visible cs
  | _, .null => by decide
  | _, .yes => by decide
  | _, .no => by decide
  | _, .number h => h.visible
  | _, .text h => h.visible
  | _, .emptyList h => visible_between (by decide) (by decide) (h.visible hgap)
  | _, .list h => visible_between (by decide) (by decide) (h.visible hgap)
  | _, .object h => h.visible hgap
  | _, .padded hbefore h hafter =>
    visible_append.mpr ⟨hbefore.visible hgap, visible_append.mpr ⟨h.visible hgap, hafter.visible hgap⟩⟩

theorem IsItems.visible (hgap : ∀ c, gap c = true → 0x20 ≤ c.toNat) :
    ∀ {cs : List Char}, IsItems gap cs → Visible cs
  | _, .last h => h.visible hgap
  | _, .more h more =>
    visible_append.mpr ⟨h.visible hgap, visible_cons.mpr ⟨by decide, more.visible hgap⟩⟩

theorem IsObject.visible (hgap : ∀ c, gap c = true → 0x20 ≤ c.toNat) :
    ∀ {cs : List Char}, IsObject gap cs → Visible cs
  | _, .empty h => visible_between (by decide) (by decide) (h.visible hgap)
  | _, .fields h => visible_between (by decide) (by decide) (h.visible hgap)

theorem IsFields.visible (hgap : ∀ c, gap c = true → 0x20 ≤ c.toNat) :
    ∀ {cs : List Char}, IsFields gap cs → Visible cs
  | _, .last h => h.visible hgap
  | _, .more h more =>
    visible_append.mpr ⟨h.visible hgap, visible_cons.mpr ⟨by decide, more.visible hgap⟩⟩

theorem IsField.visible (hgap : ∀ c, gap c = true → 0x20 ≤ c.toNat) :
    ∀ {cs : List Char}, IsField gap cs → Visible cs
  | _, .mk hbefore hkey hafter hvalue =>
    visible_append.mpr ⟨hbefore.visible hgap, visible_append.mpr ⟨hkey.visible,
      visible_append.mpr ⟨hafter.visible hgap, visible_cons.mpr ⟨by decide, hvalue.visible hgap⟩⟩⟩⟩

end

/-! ### What is printed -/

theorem isWhole_toDigits (n : Nat) : IsWhole (Nat.toDigits 10 n) := by
  by_cases hn : n = 0
  · rw [hn, Nat.toDigits_zero]
    exact .zero
  · refine .positive ⟨Nat.toDigits_ne_nil, fun c hc => ?_⟩ (mt (head_toDigits n) hn)
    exact Nat.isDigit_of_mem_toDigits (by decide) (by decide) hc

theorem isNumber_int (z : Int) : IsNumber (toString z).toList := by
  have hsign : (if decide (z < 0) then ['-'] else []) ∈ [[], ['-']] := by
    cases decide (z < 0) <;> decide
  have hnumber := IsNumber.mk hsign (isWhole_toDigits z.natAbs) .none .none
  rw [toList_toString]
  rwa [List.append_nil, List.append_nil] at hnumber

theorem isInside_unitEscape (n : Nat) (more : IsInside cs) : IsInside (unitEscape n ++ cs) := by
  have hdigit (k : Nat) : (hexValue? (hexDigit (k % 16))).isSome = true := by
    rw [hexValue?_hexDigit (Nat.mod_lt k (by decide))]
    rfl
  simp only [unitEscape, List.cons_append, List.nil_append]
  exact .unit (by simp [hdigit]) more

theorem isInside_escapeChar (asciiOnly : Bool) (c : Char) (more : IsInside cs) :
    IsInside (escapeChar asciiOnly c ++ cs) := by
  simp only [escapeChar]
  split
  · rename_i letter h
    refine .letter ?_ more
    simp only [escapeLetter?] at h
    split at h <;> cases h <;> decide
  · rename_i h
    split_ifs with hescaped
    · simp only [codeEscape]
      split_ifs
      · exact isInside_unitEscape _ more
      · rw [List.append_assoc]
        exact isInside_unitEscape _ (isInside_unitEscape _ more)
    · refine .char ?_ ?_ ?_ more
      · rintro rfl
        cases h
      · rintro rfl
        cases h
      · simp only [Bool.or_eq_true, decide_eq_true_eq, not_or] at hescaped
        exact Nat.not_lt.mp hescaped.1

theorem isText_quoted (asciiOnly : Bool) (s : String) : IsText (quoted asciiOnly s).toList := by
  rw [toList_quoted]
  refine .mk ?_
  induction s.toList with
  | nil => exact .nil
  | cons c cs ih =>
    rw [List.flatMap_cons]
    exact isInside_escapeChar asciiOnly c ih

/-! A gap may be put in front of what follows a comma or a colon. -/

theorem isBlank_nil : IsBlank gap [] := List.forall_mem_nil _

theorem IsValue.after_gap {before : List Char} (hbefore : IsBlank gap before) (h : IsValue gap cs) :
    IsValue gap (before ++ cs) := by
  have hpadded : IsValue gap (before ++ (cs ++ [])) := .padded hbefore h isBlank_nil
  rwa [List.append_nil] at hpadded

theorem IsItems.after_gap {before : List Char} (hbefore : IsBlank gap before) (h : IsItems gap cs) :
    IsItems gap (before ++ cs) := by
  cases h with
  | last h => exact .last (h.after_gap hbefore)
  | more h more =>
    rw [← List.append_assoc]
    exact .more (h.after_gap hbefore) more

theorem IsField.after_gap {before : List Char} (hbefore : IsBlank gap before) (h : IsField gap cs) :
    IsField gap (before ++ cs) := by
  obtain ⟨hfront, hkey, hafter, hvalue⟩ := h
  rw [← List.append_assoc]
  refine .mk (fun c hc => ?_) hkey hafter hvalue
  exact (List.mem_append.mp hc).elim (hbefore c) (hfront c)

theorem IsFields.after_gap {before : List Char} (hbefore : IsBlank gap before) (h : IsFields gap cs) :
    IsFields gap (before ++ cs) := by
  cases h with
  | last h => exact .last (h.after_gap hbefore)
  | more h more =>
    rw [← List.append_assoc]
    exact .more (h.after_gap hbefore) more

theorem isField_print (hkey : IsBlank gap style.keyGap.toList) (key : String)
    (hv : IsValue gap (print style v).toList) :
    IsField gap ((quoted style.asciiOnly key).toList ++
      ':' :: (style.keyGap.toList ++ (print style v).toList)) := by
  have hfield : IsField gap ([] ++ ((quoted style.asciiOnly key).toList ++
      ([] ++ ':' :: (style.keyGap.toList ++ (print style v).toList)))) :=
    .mk isBlank_nil (isText_quoted _ key) isBlank_nil (hv.after_gap hkey)
  rwa [List.nil_append, List.nil_append] at hfield

theorem isItems_print (hitem : IsBlank gap style.itemGap.toList) {items : List Json} (hne : items ≠ [])
    (hitems : ∀ v ∈ items, IsValue gap (print style v).toList) :
    IsItems gap (printItems style items).toList := by
  induction items with
  | nil => cases hne rfl
  | cons v more ih =>
    have hv := hitems v List.mem_cons_self
    cases more with
    | nil =>
      rw [toList_printItems_one]
      exact .last hv
    | cons w more =>
      have hmore := ih (List.cons_ne_nil w more) fun x hx => hitems x (List.mem_cons_of_mem _ hx)
      rw [toList_printItems_more]
      exact .more hv (hmore.after_gap hitem)

theorem isFields_print (hitem : IsBlank gap style.itemGap.toList) (hkey : IsBlank gap style.keyGap.toList)
    {fields : Fields} (hne : fields ≠ [])
    (hfields : ∀ f ∈ fields, IsValue gap (print style f.2).toList) :
    IsFields gap (printFields style fields).toList := by
  induction fields with
  | nil => cases hne rfl
  | cons f more ih =>
    obtain ⟨key, v⟩ := f
    have hfield := isField_print hkey key (hfields (key, v) List.mem_cons_self)
    cases more with
    | nil =>
      rw [toList_printFields_one]
      exact .last hfield
    | cons g more =>
      have hmore := ih (List.cons_ne_nil g more) fun x hx => hfields x (List.mem_cons_of_mem _ hx)
      have hboth := IsFields.more hfield (hmore.after_gap hitem)
      rw [toList_printFields_more]
      simpa only [List.append_assoc, List.cons_append] using hboth

theorem isObject_print (hitem : IsBlank gap style.itemGap.toList) (hkey : IsBlank gap style.keyGap.toList)
    {fields : Fields} (hfields : ∀ f ∈ fields, IsValue gap (print style f.2).toList) :
    IsObject gap (print style (.object fields)).toList := by
  rw [toList_print_object]
  cases fields with
  | nil =>
    rw [printFields]
    exact .empty isBlank_nil
  | cons f more => exact .fields (isFields_print hitem hkey (List.cons_ne_nil f more) hfields)

/-- A value whose text says all about it is printed by the grammar, with the gaps of the style. -/
theorem isValue_print (hitem : IsBlank gap style.itemGap.toList) (hkey : IsBlank gap style.keyGap.toList)
    (h : Faithful v) : IsValue gap (print style v).toList := by
  induction h with
  | null => rw [print]; exact .null
  | bool b =>
    cases b with
    | true => rw [print]; exact .yes
    | false => rw [print]; exact .no
  | int n _ => rw [print]; exact .number (isNumber_int n)
  | text s => rw [print]; exact .text (isText_quoted _ s)
  | list items _ ih =>
    rw [toList_print_list]
    cases items with
    | nil =>
      rw [printItems]
      exact .emptyList isBlank_nil
    | cons v more => exact .list (isItems_print hitem (List.cons_ne_nil v more) ih)
  | object fields _ _ ih => exact .object (isObject_print hitem hkey ih)

end PayoutRegistry.Json
