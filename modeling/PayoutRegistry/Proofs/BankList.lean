import PayoutRegistry.Proofs.DirectoryAnswers
import PayoutRegistry.Proofs.PlainText

/-!
The list of banks as the directory gives it and as it is passed on. Each entry that has a code and a name
becomes a bank, in the order of the entries; every other entry is left out by itself.
-/
namespace PayoutRegistry

/-! ### Values that say nothing -/

namespace Json

/-- The value says nothing: it is `null`, `false`, a zero, or empty. -/
inductive Void : Json → Prop
  | null : Void .null
  | no : Void (.bool false)
  | zero : Void (.int 0)
  | realZero (negative : Bool) (exponent : Int) : Void (.real (.finite negative 0 exponent))
  | noText : Void (.text "")
  | noItems : Void (.list [])
  | noFields : Void (.object [])

variable {v : Json}

theorem holds_eq_false : v.holds = false ↔ v.Void := by
  constructor
  · intro h
    cases v with
    | null => exact .null
    | bool b =>
      obtain rfl : b = false := h
      exact .no
    | int n =>
      obtain rfl : n = 0 := by simpa [holds] using h
      exact .zero
    | real x =>
      cases x with
      | finite negative m e =>
        obtain rfl : m = 0 := by simpa [holds, Binary64.isZero] using h
        exact .realZero negative e
      | infinite => cases h
      | nan => cases h
    | text s =>
      obtain rfl : s = "" := by simpa [holds] using h
      exact .noText
    | list items =>
      obtain rfl : items = [] := by simpa [holds] using h
      exact .noItems
    | object fields =>
      obtain rfl : fields = [] := by simpa [holds] using h
      exact .noFields
  · intro h
    cases h <;> rfl

theorem holds_iff : v.holds = true ↔ ¬v.Void := by
  rw [← holds_eq_false, Bool.not_eq_false]

end Json

/-! ### Entries -/

namespace Directory

/-- What an object has under the first of two keys, or under the second where the first says nothing. -/
inductive Chosen (fields : Json.Fields) (first second : String) : Json → Prop
  | first {v : Json} (found : Json.Fields.get? fields first = some v) (full : ¬v.Void) :
      Chosen fields first second v
  | second {v : Json} (passed : ∀ u, Json.Fields.get? fields first = some u → u.Void)
      (found : Json.Fields.get? fields second = some v) (full : ¬v.Void) : Chosen fields first second v

/-- The entry of a bank: an object with a code, of which the plain text is taken, and a name. -/
inductive Entry : Json → Bank → Prop
  | intro {fields : Json.Fields} {code name : Json} {word : String}
      (coded : Chosen fields "code" "bankCode" code) (worded : code.IsPlain word)
      (named : Chosen fields "name" "bankName" name) : Entry (.object fields) { code := word, name }

/-- Banks that go with entries one by one, where the other entries are left out. -/
inductive Lists : List Json → List Bank → Prop
  | nil : Lists [] []
  | taken {item : Json} {b : Bank} {items : List Json} {banks : List Bank} (entry : Entry item b)
      (rest : Lists items banks) : Lists (item :: items) (b :: banks)
  | leftOut {item : Json} {items : List Json} {banks : List Bank} (none : ∀ b, ¬Entry item b)
      (rest : Lists items banks) : Lists (item :: items) banks

variable {item v : Json} {items xs ys : List Json} {fields : Json.Fields} {first second : String}
  {b : Bank} {banks : List Bank}

theorem firstHolding_object : firstHolding (.object fields) [first, second] = some v ↔
    Chosen fields first second v := by
  have hone (key : String) (u : Json) :
      (Json.Fields.get? fields key).filter Json.holds = some u ↔
        Json.Fields.get? fields key = some u ∧ ¬u.Void := by
    rw [Option.filter_eq_some_iff, Json.holds_iff]
  have hnone : (Json.Fields.get? fields first).filter Json.holds = none ↔
      ∀ u, Json.Fields.get? fields first = some u → u.Void := by
    simp only [Option.filter_eq_none_iff, Bool.not_eq_true, Json.holds_eq_false]
  simp only [firstHolding, List.findSome?_cons, List.findSome?_nil, Json.get?]
  constructor
  · intro h
    split at h
    · rename_i u hu
      cases h
      obtain ⟨found, full⟩ := (hone _ _).mp hu
      exact .first found full
    · rename_i hno
      split at h
      · rename_i u hu
        cases h
        obtain ⟨found, full⟩ := (hone _ _).mp hu
        exact .second (hnone.mp hno) found full
      · cases h
  · intro h
    cases h with
    | first found full => rw [(hone _ _).mpr ⟨found, full⟩]
    | second passed found full => rw [hnone.mpr passed, (hone _ _).mpr ⟨found, full⟩]

/-- Only an object has values under keys. -/
theorem object_of_firstHolding {keys : List String} (h : firstHolding item keys = some v) :
    ∃ fields, item = .object fields := by
  obtain ⟨key, -, hkey⟩ := List.exists_of_findSome?_eq_some h
  cases item with
  | object fields => exact ⟨fields, rfl⟩
  | _ => cases hkey

theorem bank?_eq_some : bank? item = some b ↔ Entry item b := by
  constructor
  · intro h
    obtain ⟨code, hcode, h⟩ := Option.bind_eq_some_iff.mp h
    obtain ⟨name, hname, h⟩ := Option.bind_eq_some_iff.mp h
    obtain rfl := Option.some.inj h
    obtain ⟨fields, rfl⟩ := object_of_firstHolding hcode
    exact .intro (firstHolding_object.mp hcode) (Json.isPlain_iff.mpr rfl)
      (firstHolding_object.mp hname)
  · rintro ⟨coded, worded, named⟩
    obtain rfl := Json.isPlain_iff.mp worded
    simp only [bank?, firstHolding_object.mpr coded, firstHolding_object.mpr named,
      Option.bind_eq_bind, Option.bind_some]
    rfl

theorem bank?_eq_none : bank? item = none ↔ ∀ b, ¬Entry item b := by
  simp only [← bank?_eq_some, Option.eq_none_iff_forall_ne_some]

/-! ### Lists -/

theorem lists_filterMap (items : List Json) : Lists items (items.filterMap bank?) := by
  induction items with
  | nil => exact .nil
  | cons item items ih =>
    cases hitem : bank? item with
    | none =>
      rw [List.filterMap_cons_none hitem]
      exact .leftOut (bank?_eq_none.mp hitem) ih
    | some b =>
      rw [List.filterMap_cons_some hitem]
      exact .taken (bank?_eq_some.mp hitem) ih

/-- Entries go with one list of banks only. -/
theorem Lists.eq (h : Lists items banks) : banks = items.filterMap bank? := by
  induction h with
  | nil => rfl
  | taken entry rest ih => rw [List.filterMap_cons_some (bank?_eq_some.mpr entry), ih]
  | leftOut none rest ih => rw [List.filterMap_cons_none (bank?_eq_none.mpr none), ih]

theorem code_ne_empty (h : Lists items banks) (hb : b ∈ banks) : b.code ≠ "" := by
  rw [h.eq] at hb
  obtain ⟨item, -, hitem⟩ := List.mem_filterMap.mp hb
  exact (bank?_some hitem).1

theorem Lists.append {bs cs : List Bank} (hxs : Lists xs bs) (hys : Lists ys cs) :
    Lists (xs ++ ys) (bs ++ cs) := by
  rw [hxs.eq, hys.eq, ← List.filterMap_append]
  exact lists_filterMap _

/-! ### Replies -/

/-- The reply is the answer of a success, and what it carries under `data`, if anything. -/
inductive Carries : Reply → Option Json → Prop
  | intro {status : Nat} {body : Bytes} {fields : Json.Fields} (success : 200 ≤ status ∧ status ≤ 299)
      (read : Json.ofBytes body = .ok (.object fields)) :
      Carries (.answer status body) (Json.Fields.get? fields "data")

/-- The key can stand in the header of a request. -/
def Sendable (d : Directory) : Prop := ∀ key, d.key = some key → ∀ c ∈ key.toList, c.toNat < 0x80

variable {d : Directory} {country : String} {reply : Reply} {data : Option Json}

theorem all_authorization (hd : d.Sendable) :
    (d.authorization.getD "").toList.all (·.toNat < 0x80) = true := by
  cases hkey : d.key with
  | none => simp [authorization, hkey]
  | some key =>
    have hbearer : "Bearer ".toList.all (·.toNat < 0x80) = true := by decide
    simp only [authorization, hkey, Option.bind_some]
    split_ifs
    · rfl
    · rw [Option.getD_some, String.toList_append, List.all_append, hbearer, Bool.true_and,
        List.all_eq_true]
      exact fun c hc => decide_eq_true (hd key hkey c hc)

/-- What an answer carries is all that is looked at. -/
theorem listBanks_carried (country : String) (hd : d.Sendable) (h : Carries reply data) :
    ∃ fields, Json.Fields.get? fields "data" = data ∧
      (d.listBanks country reply).result = Directory.banks fields := by
  cases h with
  | @intro status body fields success read =>
    refine ⟨fields, rfl, ?_⟩
    have hsuccess : isSuccess status = true := by simpa [isSuccess] using success
    have hsent : ((d.request "GET" "/accounts/banks" [("country", country)] none).authorization.getD
        "").toList.all (·.toNat < 0x80) = true := all_authorization hd
    simp only [listBanks, ask, hsent, ↓reduceIte, readAnswer, hsuccess, Bool.not_true,
      Bool.false_eq_true, read]
    rfl

theorem banks_of_absent (h : Json.Fields.get? fields "data" = none) :
    Directory.banks fields = .ok [] := by
  simp [Directory.banks, h, Json.holds]

theorem banks_of_void (h : Json.Fields.get? fields "data" = some v) (hv : v.Void) :
    Directory.banks fields = .ok [] := by
  simp [Directory.banks, h, Json.holds_eq_false.mpr hv]

theorem banks_of_other (h : Json.Fields.get? fields "data" = some v) (hv : ¬v.Void)
    (hlist : ∀ items, v ≠ .list items) :
    Directory.banks fields = .error (unavailable "Bank directory sent a malformed bank list") := by
  simp only [Directory.banks, h, Option.getD_some, Json.holds_iff.mpr hv, Bool.not_true,
    Bool.false_eq_true, ↓reduceIte]

theorem banks_of_list (h : Json.Fields.get? fields "data" = some (.list items)) :
    Directory.banks fields = .ok (items.filterMap bank?) := by
  cases items with
  | nil => exact banks_of_void h .noItems
  | cons item items => simp [Directory.banks, h, Json.holds]

theorem listBanks_list (country : String) (hd : d.Sendable) (h : Carries reply (some (.list items))) :
    (d.listBanks country reply).result = .ok (items.filterMap bank?) := by
  obtain ⟨fields, hdata, hbanks⟩ := listBanks_carried country hd h
  rw [hbanks, banks_of_list hdata]

/-- The banks that an answer tells of. No `data`, or `data` that says nothing, is no banks; other `data` that is
no list is refused; and the items of a list are taken or left out one by one, so that none of them hides,
changes or moves what another one comes to. -/
theorem bank_list_normalised (d : Directory) (country : String) (hd : d.Sendable) :
    let told (reply : Reply) := (d.listBanks country reply).result
    (∀ reply, Carries reply none → told reply = .ok []) ∧
    (∀ reply v, Carries reply (some v) → v.Void → told reply = .ok []) ∧
    (∀ reply v, Carries reply (some v) → ¬v.Void → (∀ items, v ≠ .list items) →
      told reply = .error (unavailable "Bank directory sent a malformed bank list")) ∧
    (∀ reply items, Carries reply (some (.list items)) → ∃ banks, told reply = .ok banks ∧
      (∀ banks', Lists items banks' ↔ banks' = banks) ∧ ∀ b ∈ banks, b.code ≠ "") ∧
    (∀ former latter both xs ys, Carries former (some (.list xs)) → Carries latter (some (.list ys)) →
      Carries both (some (.list (xs ++ ys))) → ∃ bs cs, told former = .ok bs ∧ told latter = .ok cs ∧
        told both = .ok (bs ++ cs)) ∧
    ∀ without within xs item ys, Carries without (some (.list (xs ++ ys))) →
      Carries within (some (.list (xs ++ item :: ys))) → (∀ b, ¬Entry item b) →
        told within = told without := by
  intro told
  refine ⟨?_, ?_, ?_, ?_, ?_, ?_⟩
  · intro reply h
    obtain ⟨fields, hdata, hbanks⟩ := listBanks_carried country hd h
    exact hbanks.trans (banks_of_absent hdata)
  · intro reply v h hv
    obtain ⟨fields, hdata, hbanks⟩ := listBanks_carried country hd h
    exact hbanks.trans (banks_of_void hdata hv)
  · intro reply v h hv hlist
    obtain ⟨fields, hdata, hbanks⟩ := listBanks_carried country hd h
    exact hbanks.trans (banks_of_other hdata hv hlist)
  · intro reply items h
    refine ⟨_, listBanks_list country hd h, fun banks' => ⟨Lists.eq, ?_⟩, ?_⟩
    · rintro rfl
      exact lists_filterMap items
    · exact fun b => code_ne_empty (lists_filterMap items)
  · intro former latter both xs ys hformer hlatter hboth
    refine ⟨_, _, listBanks_list country hd hformer, listBanks_list country hd hlatter, ?_⟩
    rw [← List.filterMap_append]
    exact listBanks_list country hd hboth
  · intro without within xs item ys hwithout hwithin hitem
    have hsame : (xs ++ item :: ys).filterMap bank? = (xs ++ ys).filterMap bank? := by
      rw [List.filterMap_append, List.filterMap_append, List.filterMap_cons_none (bank?_eq_none.mpr hitem)]
    exact (listBanks_list country hd hwithin).trans
      (hsame ▸ (listBanks_list country hd hwithout).symm)

/-! ### A directory with two banks -/

/-- A directory that is asked without a key. -/
def keyless : Directory := .make "https://directory.test" none default

/-- The answer with a list of items. -/
def answerWith (items : List Json) : Reply :=
  .answer 200 (Utf8.encode (Json.print .compact (.object [("data", .list items)])))

theorem carries_answerWith (h : ∀ v ∈ items, v.Faithful) :
    Carries (answerWith items) (some (.list items)) := by
  refine .intro (by decide) (Json.ofBytes_print Json.Style.blank_compact
    (.object [("data", .list items)] (by simp) fun f hf => ?_))
  rw [List.mem_singleton.mp hf]
  exact .list items h

/-- A bank whose code is a list, under the second key. -/
def oddBank : Json :=
  .object [("code", .int 0), ("bankCode", .list [.int 1, .text "a"]), ("name", .text "First")]

/-- A bank whose name is a truth value, under the second key. -/
def plainBank : Json := .object [("code", .text "2"), ("name", .text ""), ("bankName", .bool true)]

theorem faithful_oddBank : oddBank.Faithful := by
  have hcode : Json.Faithful (.list [.int 1, .text "a"]) :=
    .list _ (List.forall_mem_cons.mpr ⟨.int 1 (by decide), List.forall_mem_singleton.mpr (.text "a")⟩)
  refine .object _ (by simp) ?_
  simp only [List.forall_mem_cons]
  exact ⟨.int 0 (by decide), hcode, .text "First", nofun⟩

theorem faithful_plainBank : plainBank.Faithful := by
  refine .object _ (by simp) ?_
  simp only [List.forall_mem_cons]
  exact ⟨.text "2", .text "", .bool true, nofun⟩

theorem entry_oddBank : Entry oddBank { code := "[1, 'a']", name := .text "First" } := by
  have hword : Json.IsPlain (.list [.int 1, .text "a"]) "[1, 'a']" := Json.isPlain_iff.mpr (by decide)
  have hzero : ∀ u, some (Json.int 0) = some u → u.Void := by
    rintro u ⟨⟩
    exact .zero
  exact .intro (.second hzero rfl nofun) hword (.first rfl (Json.holds_iff.mp (by decide)))

theorem entry_plainBank : Entry plainBank { code := "2", name := .bool true } := by
  have hcode : Chosen [("code", .text "2"), ("name", .text ""), ("bankName", .bool true)] "code" "bankCode"
      (.text "2") := .first rfl (Json.holds_iff.mp (by decide))
  have hempty : ∀ u, some (Json.text "") = some u → u.Void := by
    rintro u ⟨⟩
    exact .noText
  exact .intro hcode (.text "2") (.second hempty rfl nofun)

/-- Both banks are told of in their order, whatever stands between them. -/
theorem banks_told_around_number : keyless.Sendable ∧
    (keyless.listBanks "NG" (answerWith [oddBank, .int 5, plainBank])).result =
      .ok [{ code := "[1, 'a']", name := .text "First" }, { code := "2", name := .bool true }] := by
  have hsendable : keyless.Sendable := nofun
  have hnumber : ∀ b, ¬Entry (.int 5) b := nofun
  obtain ⟨-, -, -, hlists, -, hleft⟩ := bank_list_normalised keyless "NG" hsendable
  have hwithout : Carries (answerWith [oddBank, plainBank]) (some (.list [oddBank, plainBank])) :=
    carries_answerWith (List.forall_mem_cons.mpr
      ⟨faithful_oddBank, List.forall_mem_singleton.mpr faithful_plainBank⟩)
  have hwithin : Carries (answerWith [oddBank, .int 5, plainBank])
      (some (.list [oddBank, .int 5, plainBank])) :=
    carries_answerWith (List.forall_mem_cons.mpr ⟨faithful_oddBank, List.forall_mem_cons.mpr
      ⟨.int 5 (by decide), List.forall_mem_singleton.mpr faithful_plainBank⟩⟩)
  obtain ⟨banks, htold, honly, -⟩ := hlists _ _ hwithout
  have hbanks := (honly _).mp (.taken entry_oddBank (.taken entry_plainBank .nil))
  rw [hbanks]
  exact ⟨hsendable, (hleft _ _ [oddBank] (.int 5) [plainBank] hwithout hwithin hnumber).trans htold⟩

end Directory

end PayoutRegistry
