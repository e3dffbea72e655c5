import PayoutRegistry.Proofs.JsonText

/-!
What is printed of a value, whatever it holds, is read in the pieces in which it was printed, if it is read at
all. Fractions may come back as others, and a number can be refused; but no number runs into what follows it, and
one that is read in part leaves something behind that no list or object goes on with.
-/
namespace PayoutRegistry.Json

variable {style : Style} {rest out cs : List Char} {c d : Char} {v w : Json} {items done : List Json}
  {fields pairs : Fields} {key : String} {steps : Nat}

/-- No number goes on with what follows. -/
def Closed (rest : List Char) : Prop := ∀ c ∈ rest.head?, isNumeral c = false

/-- The reader stopped where the text of a value ends, or inside a number. -/
def Stops (rest out : List Char) : Prop := out = rest ∨ ∃ c more, out = c :: more ∧ isNumeral c = true

/-- Whenever the value is read from its text, the reader stops at the end of the text or inside a number. -/
def Aligned (style : Style) (v : Json) : Prop :=
  ∀ (steps : Nat) (rest out : List Char) (w : Json), Closed rest →
    readValue steps ((print style v).toList ++ rest) = .ok (w, out) → Stops rest out

/-- A field that was read where one was printed: the key is the same, and so is a whole number. -/
structure Echoes (f p : String × Json) : Prop where
  key : p.1 = f.1
  int : ∀ z, f.2 = .int z → (Nat.toDigits 10 z.natAbs).length ≤ maxDigits → p.2 = .int z

theorem closed_of_eq (h : c = ',' ∨ c = ']' ∨ c = '\x7d') : Closed (c :: rest) := by
  intro d hd
  cases hd
  rcases h with rfl | rfl | rfl <;> rfl

theorem cut_of_closed (h : Closed rest) : Cut rest := by
  intro c hc
  have hno := h c hc
  refine ⟨?_, ?_, ?_, ?_⟩
  · by_contra hdigit
    rw [isNumeral_of_isDigit (by simpa using hdigit)] at hno
    cases hno
  all_goals
    rintro rfl
    cases hno

/-- What goes on behind a value with a separator was left by a reader that stopped at its end. -/
theorem Stops.eq {more : List Char} (h : Stops rest out) (hnext : skipGaps out = d :: more)
    (hd : isNumeral d = false) : out = rest := by
  rcases h with h | ⟨c, tail, rfl, hc⟩
  · exact h
  · rw [skipGaps_cons (isGap_of_isNumeral hc)] at hnext
    cases hnext
    rw [hc] at hd
    cases hd

/-! ### Values without parts -/

theorem aligned_numeral (hn : Numeral (print style v).toList) (hne : print style v ≠ "") :
    Aligned style v := by
  intro steps rest out w hrest h
  obtain ⟨c, cs, hcs⟩ := List.exists_cons_of_ne_nil (mt String.toList_eq_nil_iff.mp hne)
  have hc : isNumeral c = true := hn c (hcs ▸ List.mem_cons_self)
  have htakes : Takes ((print style v).toList ++ rest) out := by
    obtain _ | steps := steps
    · cases h
    · rw [hcs, List.cons_append, readValue_of_cons (ne_of_isNumeral hc rfl) (ne_of_isNumeral hc rfl)
        (ne_of_isNumeral hc rfl)] at h
      rw [hcs, List.cons_append]
      split at h
      · rename_i found hword
        cases h
        exact takes_readWord hword
      · exact takes_readNumber h
  exact htakes.stops hrest hn

theorem aligned_text (s : String) : Aligned style (.text s) := by
  intro steps rest out w _ h
  obtain _ | steps := steps
  · cases h
  · rw [print, toList_quoted, List.cons_append, List.append_assoc, List.singleton_append] at h
    simp only [readValue, readText_escaped] at h
    cases h
    exact Or.inl rfl

/-! ### Lists -/

theorem readItems_eq_ok (h : readItems (steps + 1) done cs = .ok (w, out)) :
    ∃ v next, readValue steps cs = .ok (v, next) ∧
      ((∃ more, skipGaps next = ',' :: more ∧
          readItems steps (v :: done) (skipGaps more) = .ok (w, out)) ∨
        skipGaps next = ']' :: out) := by
  simp only [readItems] at h
  cases hread : readValue steps cs with
  | error f =>
    rw [hread] at h
    cases h
  | ok found =>
    obtain ⟨v, next⟩ := found
    rw [hread] at h
    simp only [bind, Except.bind] at h
    refine ⟨v, next, rfl, ?_⟩
    split at h
    · rename_i more hmore
      exact Or.inl ⟨more, hmore, h⟩
    · rename_i more hmore
      cases h
      exact Or.inr hmore
    · cases h

/-- The reader gets over an item of a list to the character that was put behind it. -/
theorem readItem_aligned (hv : Aligned style v) (hc : c = ',' ∨ c = ']')
    (h : readItems (steps + 1) done ((print style v).toList ++ c :: rest) = .ok (w, out)) :
    c = ',' ∧ (∃ v', readItems steps (v' :: done) (skipGaps rest) = .ok (w, out)) ∨ c = ']' ∧ out = rest := by
  obtain ⟨v', next, hread, hnext⟩ := readItems_eq_ok h
  have hstop := hv steps _ next v' (closed_of_eq (hc.imp_right Or.inl)) hread
  have hskip : skipGaps (c :: rest) = c :: rest := by
    rcases hc with rfl | rfl <;> exact skipGaps_cons rfl
  rcases hnext with ⟨more, hmore, hrest⟩ | hend
  · rw [hstop.eq hmore rfl, hskip] at hmore
    cases hmore
    exact Or.inl ⟨rfl, v', hrest⟩
  · rw [hstop.eq hend rfl, hskip] at hend
    cases hend
    exact Or.inr ⟨rfl, rfl⟩

theorem readItems_aligned (hstyle : style.Blank) (hne : items ≠ [])
    (hitems : ∀ v ∈ items, Aligned style v)
    (h : readItems steps done ((printItems style items).toList ++ ']' :: rest) = .ok (w, out)) :
    out = rest := by
  induction items generalizing steps done with
  | nil => cases hne rfl
  | cons v more ih =>
    have hv := hitems v List.mem_cons_self
    obtain _ | steps := steps
    · cases h
    cases more with
    | nil =>
      rw [toList_printItems_one] at h
      obtain ⟨hcomma, -⟩ | ⟨-, hout⟩ := readItem_aligned hv (Or.inr rfl) h
      · cases hcomma
      · exact hout
    | cons x more =>
      rw [toList_printItems_more, List.append_assoc, List.cons_append, List.append_assoc] at h
      obtain ⟨-, v', hrest⟩ | ⟨hclose, -⟩ := readItem_aligned hv (Or.inl rfl) h
      · obtain ⟨c, cs, hstart, hgap, -⟩ := printItems_start style x more
        have hstrip := skipGaps_append (cs ++ ']' :: rest) hstyle.item hgap
        rw [← List.cons_append, ← hstart] at hstrip
        rw [hstrip] at hrest
        exact ih (by simp) (fun y hy => hitems y (List.mem_cons_of_mem _ hy)) hrest
      · cases hclose

theorem aligned_list (hstyle : style.Blank) (hitems : ∀ v ∈ items, Aligned style v) :
    Aligned style (.list items) := by
  intro steps rest out w _ h
  rw [toList_print_list, List.cons_append, List.append_assoc, List.singleton_append] at h
  obtain _ | steps := steps
  · cases h
  cases items with
  | nil =>
    cases h
    exact Or.inl rfl
  | cons v more =>
    obtain ⟨c, cs, hstart, hgap, hclose⟩ := printItems_start style v more
    have hread : readItems steps [] ((printItems style (v :: more)).toList ++ ']' :: rest) =
        .ok (w, out) := by
      rw [hstart, List.cons_append] at h ⊢
      simpa [readValue, skipGaps_cons hgap, hclose] using h
    exact Or.inl (readItems_aligned hstyle (List.cons_ne_nil v more) hitems hread)

/-! ### Objects -/

theorem readFields_eq_ok {done : Fields} (h : readFields (steps + 1) done ('"' :: cs) = .ok (w, out)) :
    ∃ key next more v after, readText [] cs = .ok (key, next) ∧ skipGaps next = ':' :: more ∧
      readValue steps (skipGaps more) = .ok (v, after) ∧
      ((∃ last, skipGaps after = ',' :: last ∧
          readFields steps ((key, v) :: done) (skipGaps last) = .ok (w, out)) ∨
        skipGaps after = '\x7d' :: out ∧ w = .object (Fields.ofPairs (done.reverse ++ [(key, v)]))) := by
  simp only [readFields] at h
  cases hkey : readText [] cs with
  | error f =>
    rw [hkey] at h
    cases h
  | ok found =>
    obtain ⟨key, next⟩ := found
    rw [hkey] at h
    simp only [bind, Except.bind] at h
    split at h
    · rename_i more hmore
      cases hread : readValue steps (skipGaps more) with
      | error f =>
        rw [hread] at h
        cases h
      | ok found =>
        obtain ⟨v, after⟩ := found
        rw [hread] at h
        refine ⟨key, next, more, v, after, rfl, hmore, hread, ?_⟩
        simp only at h
        split at h
        · rename_i last hlast
          exact Or.inl ⟨last, hlast, h⟩
        · rename_i last hlast
          cases h
          exact Or.inr ⟨hlast, by rw [List.reverse_cons]⟩
        · cases h
    · cases h

theorem echoes_readValue (h : readValue steps ((print style v).toList ++ rest) = .ok (w, out))
    (hrest : Closed rest) : Echoes (key, v) (key, w) := by
  refine ⟨rfl, ?_⟩
  rintro z hz hdigits
  obtain rfl : v = .int z := hz
  obtain _ | steps := steps
  · cases h
  · rw [readValue_int hdigits steps (cut_of_closed hrest)] at h
    cases h
    rfl

/-- The reader gets over a field of an object to the character that was put behind it. -/
theorem readField_aligned (hstyle : style.Blank) (hv : Aligned style v) {done : Fields}
    (hc : c = ',' ∨ c = '\x7d')
    (h : readFields (steps + 1) done ((quoted style.asciiOnly key).toList ++
      ':' :: (style.keyGap.toList ++ ((print style v).toList ++ c :: rest))) = .ok (w, out)) :
    ∃ p, Echoes (key, v) p ∧
      (c = ',' ∧ readFields steps (p :: done) (skipGaps rest) = .ok (w, out) ∨
        c = '\x7d' ∧ out = rest ∧ w = .object (Fields.ofPairs (done.reverse ++ [p]))) := by
  obtain ⟨cs, hcs, hkey⟩ := readKey_print style.asciiOnly key
    (':' :: (style.keyGap.toList ++ ((print style v).toList ++ c :: rest)))
  rw [hcs] at h
  obtain ⟨key', next, more, v', after, hkey', hcolon, hread, hnext⟩ := readFields_eq_ok h
  cases hkey.symm.trans hkey'
  rw [skipGaps_cons rfl] at hcolon
  cases hcolon
  obtain ⟨d, ds, hstart, hgap, -⟩ := print_start style v
  have hstrip := skipGaps_append (ds ++ c :: rest) hstyle.key hgap
  rw [← List.cons_append, ← hstart] at hstrip
  rw [hstrip] at hread
  have hclosed : Closed (c :: rest) := closed_of_eq (hc.imp_right Or.inr)
  have hstop := hv steps _ after v' hclosed hread
  have hecho : Echoes (key, v) (key, v') := echoes_readValue hread hclosed
  have hskip : skipGaps (c :: rest) = c :: rest := by
    rcases hc with rfl | rfl <;> exact skipGaps_cons rfl
  rcases hnext with ⟨last, hlast, hrest⟩ | ⟨hend, rfl⟩
  · rw [hstop.eq hlast rfl, hskip] at hlast
    cases hlast
    exact ⟨_, hecho, Or.inl ⟨rfl, hrest⟩⟩
  · rw [hstop.eq hend rfl, hskip] at hend
    cases hend
    exact ⟨_, hecho, Or.inr ⟨rfl, rfl, rfl⟩⟩

theorem readFields_aligned (hstyle : style.Blank) {done : Fields} (hne : fields ≠ [])
    (hfields : ∀ f ∈ fields, Aligned style f.2)
    (h : readFields steps done ((printFields style fields).toList ++ '\x7d' :: rest) = .ok (w, out)) :
    out = rest ∧ ∃ pairs, w = .object (Fields.ofPairs (done.reverse ++ pairs)) ∧
      List.Forall₂ Echoes fields pairs := by
  induction fields generalizing steps done with
  | nil => cases hne rfl
  | cons f more ih =>
    obtain ⟨key, v⟩ := f
    have hv : Aligned style v := hfields (key, v) List.mem_cons_self
    obtain _ | steps := steps
    · cases h
    cases more with
    | nil =>
      rw [toList_printFields_one] at h
      simp only [List.append_assoc, List.cons_append] at h
      obtain ⟨p, hecho, ⟨hcomma, -⟩ | ⟨-, hout, hw⟩⟩ := readField_aligned hstyle hv (Or.inr rfl) h
      · cases hcomma
      · exact ⟨hout, [p], hw, .cons hecho .nil⟩
    | cons g more =>
      rw [toList_printFields_more] at h
      simp only [List.append_assoc, List.cons_append] at h
      obtain ⟨p, hecho, ⟨-, hrest⟩ | ⟨hclose, -⟩⟩ := readField_aligned hstyle hv (Or.inl rfl) h
      · obtain ⟨cs, hmore⟩ := printFields_start style g more
        have hstrip := skipGaps_append (c := '"') (cs ++ '\x7d' :: rest) hstyle.item rfl
        rw [← List.cons_append, ← hmore] at hstrip
        rw [hstrip] at hrest
        obtain ⟨hout, pairs, hw, hpairs⟩ :=
          ih (by simp) (fun f hf => hfields f (List.mem_cons_of_mem _ hf)) hrest
        refine ⟨hout, p :: pairs, ?_, .cons hecho hpairs⟩
        rw [hw, List.reverse_cons, List.append_assoc, List.singleton_append]
      · cases hclose

/-- An object that is read from its text has been read to the end, with the same keys. -/
theorem readObject_aligned (hstyle : style.Blank) (hfields : ∀ f ∈ fields, Aligned style f.2)
    (h : readValue steps ((print style (.object fields)).toList ++ rest) = .ok (w, out)) :
    out = rest ∧ ∃ pairs, w = .object (Fields.ofPairs pairs) ∧ List.Forall₂ Echoes fields pairs := by
  rw [toList_print_object, List.cons_append, List.append_assoc, List.singleton_append] at h
  obtain _ | steps := steps
  · cases h
  cases fields with
  | nil =>
    cases h
    exact ⟨rfl, [], rfl, .nil⟩
  | cons f more =>
    obtain ⟨cs, hstart⟩ := printFields_start style f more
    have hread : readFields steps [] ((printFields style (f :: more)).toList ++ '\x7d' :: rest) =
        .ok (w, out) := by
      rw [hstart, List.cons_append] at h ⊢
      simpa [readValue, skipGaps_cons (show isGap '"' = false by rfl)] using h
    exact readFields_aligned hstyle (List.cons_ne_nil f more) hfields hread

/-- Every value is aligned. -/
theorem aligned (hstyle : style.Blank) (v : Json) : Aligned style v := by
  have hleaf {s : String} (hs : print style v = s) (hn : Numeral s.toList) (hne : s ≠ "") :
      Aligned style v := aligned_numeral (hs ▸ hn) (hs ▸ hne)
  match v with
  | .null => exact hleaf (print.eq_1 style) (by decide) (by decide)
  | .bool true => exact hleaf (print.eq_2 style) (by decide) (by decide)
  | .bool false => exact hleaf (print.eq_3 style) (by decide) (by decide)
  | .int n => exact hleaf (by rw [print]) (numeral_int n) (toString_ne_empty n)
  | .real x => exact hleaf (by rw [print]) (numeral_realText x) (realText_ne_empty x)
  | .text s => exact aligned_text s
  | .list items => exact aligned_list hstyle fun w _ => aligned hstyle w
  | .object fields =>
    intro steps rest out w _ h
    have hfields : ∀ f ∈ fields, Aligned style f.2 := by
      rintro ⟨key, w⟩ hf
      have hlt := List.sizeOf_lt_of_mem hf
      exact aligned hstyle w
    exact Or.inl (readObject_aligned hstyle hfields h).1
termination_by sizeOf v
decreasing_by
  · simp_wf
    have hlt := List.sizeOf_lt_of_mem (by assumption)
    omega
  · simp only [Prod.mk.sizeOf_spec, object.sizeOf_spec] at *
    omega

/-! ### Objects that are read back -/

theorem lookup_replaced (fields : Fields) (key key' : String) (v : Json) :
    (fields.map fun f => if f.1 == key then (key, v) else f).lookup key' =
      if key' = key then (fields.lookup key').map fun _ => v else fields.lookup key' := by
  induction fields with
  | nil => simp
  | cons f more ih =>
    rw [List.map_cons, List.lookup_cons, ih, List.lookup_cons]
    by_cases hf : f.1 = key
    · rw [if_pos (beq_iff_eq.mpr hf), hf]
      by_cases hkey : key' = key
      · simp [hkey]
      · simp [hkey, beq_false_of_ne hkey]
    · rw [if_neg (mt beq_iff_eq.mp hf)]
      by_cases hkey : key' = key
      · simp [hkey, beq_false_of_ne (Ne.symm hf)]
      · simp [hkey]

/-- What is written under a key is found there, and nothing else changes. -/
theorem get?_set (fields : Fields) (key key' : String) (v : Json) :
    Fields.get? (Fields.set fields key v) key' =
      if key' = key then some v else Fields.get? fields key' := by
  simp only [Fields.get?, Fields.set]
  by_cases hany : fields.any (·.1 == key) = true
  · rw [if_pos hany, lookup_replaced]
    split_ifs with hkey
    · obtain ⟨f, hf, hsame⟩ := List.any_eq_true.mp hany
      have hsome : (fields.lookup key').isSome = true :=
        List.lookup_isSome_iff.mpr ⟨f, hf, beq_iff_eq.mpr (hkey.trans (beq_iff_eq.mp hsame).symm)⟩
      obtain ⟨w, hw⟩ := Option.isSome_iff_exists.mp hsome
      rw [hw, Option.map_some]
    · rfl
  · rw [if_neg hany, List.lookup_append, List.lookup_cons]
    split_ifs with hkey
    · have hnone : fields.lookup key' = none := by
        refine List.lookup_eq_none_iff.mpr fun f hf => bne_iff_ne.mpr ?_
        rintro rfl
        exact hany (List.any_eq_true.mpr ⟨f, hf, beq_iff_eq.mpr hkey⟩)
      rw [hnone, hkey, beq_self_eq_true, Option.none_or]
    · rw [beq_false_of_ne hkey, List.lookup_nil, Option.or_none]

theorem mem_set {f : String × Json} (h : f ∈ Fields.set fields key v) :
    f = (key, v) ∨ f ∈ fields ∧ f.1 ≠ key := by
  simp only [Fields.set] at h
  split_ifs at h with hany
  · obtain ⟨g, hg, rfl⟩ := List.mem_map.mp h
    by_cases hsame : (g.1 == key) = true
    · rw [if_pos hsame]
      exact Or.inl rfl
    · rw [if_neg hsame]
      exact Or.inr ⟨hg, fun hkey => hsame (beq_iff_eq.mpr hkey)⟩
  · rcases List.mem_append.mp h with hf | hf
    · refine Or.inr ⟨hf, fun hkey => ?_⟩
      exact hany (List.any_eq_true.mpr ⟨f, hf, beq_iff_eq.mpr hkey⟩)
    · exact Or.inl (List.mem_singleton.mp hf)

theorem keys_set (fields : Fields) (key : String) (v : Json) :
    (Fields.set fields key v).map Prod.fst =
      if key ∈ fields.map Prod.fst then fields.map Prod.fst else fields.map Prod.fst ++ [key] := by
  have hany : fields.any (·.1 == key) = true ↔ key ∈ fields.map Prod.fst := by
    simp [List.any_eq_true]
  simp only [Fields.set, hany]
  split_ifs
  · rw [List.map_map]
    refine List.map_congr_left fun f _ => ?_
    by_cases hkey : f.1 = key <;> simp [hkey]
  · rw [List.map_append, List.map_singleton]

theorem faithful_set (h : Faithful (.object fields)) (hv : Faithful v) :
    Faithful (.object (Fields.set fields key v)) := by
  cases h with
  | object _ hkeys hfields =>
    refine .object _ ?_ ?_
    · rw [keys_set]
      split_ifs with hthere
      · exact hkeys
      · refine List.nodup_append.mpr ⟨hkeys, by simp, ?_⟩
        rintro a ha b hb rfl
        exact hthere (List.mem_singleton.mp hb ▸ ha)
    · intro f hf
      rcases mem_set hf with rfl | ⟨hf, -⟩
      · exact hv
      · exact hfields f hf

/-- The last pair with a key is what the object has under it. -/
theorem get?_ofPairs (pairs : Fields) (key : String) :
    Fields.get? (Fields.ofPairs pairs) key = pairs.reverse.lookup key := by
  have hfold (pairs done : Fields) :
      Fields.get? (pairs.foldl (fun fs p => Fields.set fs p.1 p.2) done) key =
        (pairs.reverse.lookup key).or (Fields.get? done key) := by
    induction pairs generalizing done with
    | nil => rfl
    | cons p more ih =>
      rw [List.foldl_cons, ih, get?_set, List.reverse_cons, List.lookup_append, Option.or_assoc,
        List.lookup_cons, List.lookup_nil]
      split_ifs with hkey
      · rw [beq_iff_eq.mpr hkey, Option.some_or]
      · rw [beq_false_of_ne hkey, Option.none_or]
  rw [Fields.ofPairs, hfold]
  exact Option.or_none

theorem read_eq_ok {s : String} (h : read s = .ok v) :
    ∃ steps out, readValue steps (skipGaps s.toList) = .ok (v, out) := by
  simp only [read] at h
  cases hread : readValue (2 * (skipGaps s.toList).length + 1) (skipGaps s.toList) with
  | error f =>
    rw [hread] at h
    cases h
  | ok found =>
    rw [hread] at h
    simp only [bind, Except.bind] at h
    split_ifs at h
    cases h
    exact ⟨_, found.2, hread⟩

theorem pairs_of_read_print (hstyle : style.Blank) {found : Fields}
    (h : read (print style (.object fields)) = .ok (.object found)) :
    ∃ pairs, found = Fields.ofPairs pairs ∧ List.Forall₂ Echoes fields pairs := by
  obtain ⟨steps, out, hread⟩ := read_eq_ok h
  obtain ⟨c, cs, hstart, hgap, -⟩ := print_start style (.object fields)
  rw [hstart, skipGaps_cons hgap, ← hstart, ← List.append_nil (String.toList _)] at hread
  obtain ⟨-, pairs, hfound, hechoes⟩ :=
    readObject_aligned hstyle (fun f _ => aligned hstyle f.2) hread
  exact ⟨pairs, object.inj hfound, hechoes⟩

theorem echo_of_mem (h : List.Forall₂ Echoes fields pairs) :
    (∀ p ∈ pairs, ∃ f ∈ fields, Echoes f p) ∧ ∀ f ∈ fields, ∃ p ∈ pairs, Echoes f p := by
  induction h with
  | nil => exact ⟨nofun, nofun⟩
  | cons hecho _ ih => simp_all

/-- A whole number under a key is found again in an object that is read from its text. -/
theorem get?_of_read_print (hstyle : style.Blank) {found : Fields} {z : Int}
    (hz : (Nat.toDigits 10 z.natAbs).length ≤ maxDigits)
    (h : read (print style (.object fields)) = .ok (.object found))
    (hmem : key ∈ fields.map Prod.fst) (hall : ∀ f ∈ fields, f.1 = key → f.2 = .int z) :
    Fields.get? found key = some (.int z) := by
  obtain ⟨pairs, rfl, hechoes⟩ := pairs_of_read_print hstyle h
  obtain ⟨hback, hforth⟩ := echo_of_mem hechoes
  rw [get?_ofPairs]
  obtain ⟨f, hf, hkey⟩ := List.mem_map.mp hmem
  obtain ⟨p, hp, hecho⟩ := hforth f hf
  have hsome : (pairs.reverse.lookup key).isSome = true :=
    List.lookup_isSome_iff.mpr ⟨p, List.mem_reverse.mpr hp, by rw [hecho.key, hkey, beq_self_eq_true]⟩
  obtain ⟨w, hw⟩ := Option.isSome_iff_exists.mp hsome
  obtain ⟨before, after, hsplit, -⟩ := List.lookup_eq_some_iff.mp hw
  have hlast : (key, w) ∈ pairs :=
    List.mem_reverse.mp (hsplit ▸ List.mem_append_right _ List.mem_cons_self)
  obtain ⟨f', hf', hecho'⟩ := hback _ hlast
  rw [hw, ← hecho'.int z (hall f' hf' hecho'.key.symm) hz]

end PayoutRegistry.Json
