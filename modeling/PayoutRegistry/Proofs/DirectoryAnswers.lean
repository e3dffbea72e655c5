import PayoutRegistry.Proofs.Boundary

/-!
What becomes of the answers of the bank directory, whatever it sends. Each is used or refused as a whole, and
a name is passed on as it came: if it is not a text, there is no answer that it would fit.
-/
namespace PayoutRegistry

/-- The reply comes from the other service: it is an answer, or a fault on the way there or back, be it before
anything was sent. -/
inductive Reply.Foreign : Reply → Prop
  | answer (status : Nat) (body : Bytes) : Foreign (.answer status body)
  | fault (fault : ExchangeFault) (message : String) (way : fault.inTransit = true) :
      Foreign (.fault (.exchange fault message))
  | unsent (fault : ExchangeFault) (message : String) (way : fault.inTransit = true) :
      Foreign (.unsent (.exchange fault message))

/-- The value is a text that says something. -/
def Json.IsName (v : Json) : Prop := ∃ s, s ≠ "" ∧ v = .text s

/-! ### Plain texts -/

namespace Json

/-- A value that holds has a plain text. -/
theorem plain_ne_empty {v : Json} (h : v.holds = true) : v.plain ≠ "" := by
  cases v with
  | null => cases h
  | bool b =>
    cases b with
    | false => cases h
    | true => decide
  | int n => exact toString_ne_empty n
  | real x => exact x.text_ne_empty
  | text s => simpa [holds, plain] using h
  | list items => simp [plain, shown]
  | object fields => simp [plain, shown]

theorem isName_iff {v : Json} (h : v.holds = true) : v.IsName ↔ ∃ s, v = .text s := by
  constructor
  · rintro ⟨s, -, hs⟩
    exact ⟨s, hs⟩
  · rintro ⟨s, rfl⟩
    exact ⟨s, by simpa [holds] using h, rfl⟩

end Json

/-! ### The client of the directory -/

namespace Directory

variable {d : Directory} {method path : String} {query : List (String × String)} {body : Option Json}
  {reply : Reply} {item v : Json} {keys : List String} {b : Bank}

theorem readAnswer_cases (method path : String) (status : Nat) (bytes : Bytes) :
    (∃ fields, (readAnswer method path status bytes).2 = .ok fields) ∨
      ∃ detail, (readAnswer method path status bytes).2 = .error (unavailable detail) := by
  simp only [readAnswer]
  split
  · exact Or.inr ⟨_, rfl⟩
  · split
    · exact Or.inr ⟨_, rfl⟩
    · exact Or.inl ⟨_, rfl⟩
    · exact Or.inr ⟨_, rfl⟩

/-- Asking gives the object of an answer, or the directory is not available. -/
theorem ask_cases (h : reply.Foreign) :
    (∃ fields, (d.ask method path query body reply).result = .ok fields) ∨
      ∃ detail, (d.ask method path query body reply).result = .error (unavailable detail) := by
  simp only [ask]
  split
  · cases h with
    | answer status bytes => exact readAnswer_cases method path status bytes
    | fault fault message way => exact Or.inr ⟨"Bank directory is unavailable", by simp [onFault, way]⟩
    | unsent fault message way => exact Or.inr ⟨"Bank directory is unavailable", by simp [onFault, way]⟩
  · exact Or.inr ⟨malformedDetail, rfl⟩

theorem holds_of_firstHolding (h : firstHolding item keys = some v) : v.holds = true := by
  obtain ⟨key, -, hkey⟩ := List.exists_of_findSome?_eq_some h
  exact (Option.filter_eq_some_iff.mp hkey).2

theorem bank?_some (h : bank? item = some b) : b.code ≠ "" ∧ b.name.holds = true := by
  obtain ⟨code, hcode, h⟩ := Option.bind_eq_some_iff.mp h
  obtain ⟨name, hname, h⟩ := Option.bind_eq_some_iff.mp h
  obtain rfl := Option.some.inj h
  exact ⟨Json.plain_ne_empty (holds_of_firstHolding hcode), holds_of_firstHolding hname⟩

theorem banks_cases (fields : Json.Fields) :
    (∃ banks, Directory.banks fields = .ok banks ∧
        ∀ b ∈ banks, b.code ≠ "" ∧ b.name.holds = true) ∨
      ∃ detail, Directory.banks fields = .error (unavailable detail) := by
  simp only [Directory.banks]
  split
  · exact Or.inl ⟨[], rfl, nofun⟩
  · split
    · refine Or.inl ⟨_, rfl, ?_⟩
      intro b hb
      obtain ⟨item, -, hitem⟩ := List.mem_filterMap.mp hb
      exact bank?_some hitem
    · exact Or.inr ⟨_, rfl⟩

theorem listBanks_cases (d : Directory) (country : String) (h : reply.Foreign) :
    (∃ banks, (d.listBanks country reply).result = .ok banks ∧
        ∀ b ∈ banks, b.code ≠ "" ∧ b.name.holds = true) ∨
      ∃ detail, (d.listBanks country reply).result = .error (unavailable detail) := by
  simp only [listBanks]
  rcases ask_cases h with ⟨fields, hok⟩ | ⟨detail, hno⟩
  · rw [hok]
    exact banks_cases fields
  · rw [hno]
    exact Or.inr ⟨detail, rfl⟩

theorem resolve_cases (d : Directory) (bankCode number : String) (h : reply.Foreign) :
    (∃ name, (d.resolve bankCode number reply).result = .ok name ∧ name.holds = true) ∨
      ∃ detail, (d.resolve bankCode number reply).result = .error (unavailable detail) := by
  simp only [resolve]
  rcases ask_cases h with ⟨fields, hok⟩ | ⟨detail, hno⟩
  · rw [hok]
    change (∃ name, holder fields = .ok name ∧ _) ∨ ∃ detail, holder fields = .error _
    simp only [holder]
    split
    · rename_i name hname
      exact Or.inl ⟨name, rfl, holds_of_firstHolding hname⟩
    · exact Or.inr ⟨_, rfl⟩
  · rw [hno]
    exact Or.inr ⟨detail, rfl⟩

end Directory

/-! ### The endpoints -/

namespace Gateway

variable {e : Surroundings} {r : Request} {s : Store} {user : User} {banks : List Bank} {b : Bank}

theorem bankAnswer_text (code name : String) :
    bankAnswer { code, name := .text name } = .value (BankAnswer.toJson { code, name }) := rfl

/-- An answer has room only for a text. -/
theorem bankAnswer_value : (∃ v, bankAnswer b = .value v) ↔ ∃ name, b.name = .text name := by
  obtain ⟨code, name⟩ := b
  constructor
  · rintro ⟨v, hv⟩
    cases name with
    | text s => exact ⟨s, rfl⟩
    | _ => cases hv
  · rintro ⟨s, rfl⟩
    exact ⟨_, bankAnswer_text code s⟩

theorem holderAnswer_value {form : EnquiryForm} {name : Json} :
    (∃ v, holderAnswer form name = .value v) ↔ ∃ s, name = .text s := by
  constructor
  · rintro ⟨v, hv⟩
    cases name with
    | text s => exact ⟨s, rfl⟩
    | _ => cases hv
  · rintro ⟨s, rfl⟩
    exact ⟨_, rfl⟩

/-- The banks fit an answer exactly if each of them does. -/
theorem bankAnswers_value :
    (∃ v, (banks.foldr (fun b rest => (Checked.map List.cons (bankAnswer b)).seq rest)
      (.value [])).map Json.list = .value v) ↔ ∀ b ∈ banks, ∃ name, b.name = .text name := by
  have hmap : ∀ x : Checked (List Json), (∃ v, x.map Json.list = .value v) ↔ ∃ v, x = .value v := by
    intro x
    cases x <;> simp [Checked.map]
  rw [hmap]
  induction banks with
  | nil => exact iff_of_true ⟨[], rfl⟩ nofun
  | cons b banks ih =>
    have hcons : ∀ rest : Checked (List Json),
        (∃ v, (Checked.map List.cons (bankAnswer b)).seq rest = .value v) ↔
          (∃ v, bankAnswer b = .value v) ∧ ∃ v, rest = .value v := by
      intro rest
      cases bankAnswer b <;> cases rest <;> simp [Checked.map, Checked.seq]
    rw [List.forall_mem_cons, List.foldr_cons]
    exact (hcons _).trans (and_congr bankAnswer_value ih)

/-- The status of an answer that is made of an exchange with the directory. -/
theorem status_ofExchange {α : Type} {x : Exchange α} {body : α → Checked Json} {good : α → Prop}
    (hgood : ∀ a, x.result = .ok a → ((∃ v, body a = .value v) ↔ good a))
    (hx : (∃ a, x.result = .ok a) ∨ ∃ detail, x.result = .error (Directory.unavailable detail)) :
    let status := (Served.ofExchange s x body).response.status
    (status = 200 ↔ ∃ a, x.result = .ok a ∧ good a) ∧
      (status = 502 ↔ ∃ detail, x.result = .error (Directory.unavailable detail)) ∧
      (status = 500 ↔ ∃ a, x.result = .ok a ∧ ¬good a) := by
  intro status
  rcases hx with ⟨a, hok⟩ | ⟨detail, hno⟩
  · have ha := hgood a hok
    cases hbody : body a with
    | value v =>
      have hstatus : status = 200 := by simp only [status, Served.ofExchange, hok, hbody, Response.json]
      have hgood' : good a := ha.mp ⟨v, hbody⟩
      simp [hstatus, hok, hgood', Directory.unavailable]
    | issues list =>
      have hstatus : status = 500 := by
        simp only [status, Served.ofExchange, hok, hbody, Response.ofFailure]
      have hbad : ¬good a := by
        intro hg
        obtain ⟨v, hv⟩ := ha.mpr hg
        rw [hbody] at hv
        cases hv
      simp [hstatus, hok, hbad, Directory.unavailable]
  · have hstatus : status = 502 := by
      simp only [status, Served.ofExchange, hno, Directory.unavailable, Response.ofFailure,
        Refusal.status]
    simp [hstatus, hno, Directory.unavailable]

/-- The answer to a user who asks for banks: it depends on what the client makes of the reply. -/
theorem status_banks {code : String} (hfind : Route.find r.method r.path.toList = .endpoint .banks)
    (caller : caller? e.circumstances r s.ledger = some user) (asked : country e.door r = .value code)
    (h : e.directory.Foreign) :
    let result := ((Directory.ofSettings e.circumstances.settings).listBanks (Text.uppercase code)
      e.directory).result
    let status := (handle e r s).response.status
    (status = 200 ↔ ∃ banks, result = .ok banks ∧ ∀ b ∈ banks, b.name.IsName) ∧
      (status = 502 ↔ ∃ detail, result = .error (Directory.unavailable detail)) ∧
      (status = 500 ↔ ∃ banks, result = .ok banks ∧ ¬∀ b ∈ banks, b.name.IsName) := by
  intro result status
  have hserved : serve e r s .banks = .ofExchange s
      ((Directory.ofSettings e.circumstances.settings).listBanks (Text.uppercase code) e.directory)
      fun banks => (banks.foldr (fun b rest => (Checked.map List.cons (bankAnswer b)).seq rest)
        (.value [])).map Json.list := by
    simp only [serve, withUser_of_caller caller, asked, withInput]
  have hcases := Directory.listBanks_cases (Directory.ofSettings e.circumstances.settings)
    (Text.uppercase code) h
  have hgood : ∀ banks, result = .ok banks →
      ((∀ b ∈ banks, ∃ name, b.name = .text name) ↔ ∀ b ∈ banks, b.name.IsName) := by
    intro banks hok
    rcases hcases with ⟨banks', hok', hbanks⟩ | ⟨detail, hno⟩
    · obtain rfl := Except.ok.inj (hok.symm.trans hok')
      exact forall₂_congr fun b hb => (Json.isName_iff (hbanks b hb).2).symm
    · cases hok.symm.trans hno
  have hstatus : status = (serve e r s .banks).response.status := status_handle hfind
  rw [hstatus, hserved]
  refine status_ofExchange (fun banks hok => bankAnswers_value.trans (hgood banks hok)) ?_
  exact hcases.imp_left (Exists.imp fun _ => And.left)

/-- The answer to a user who asks who holds an account. -/
theorem status_enquiry {form : EnquiryForm}
    (hfind : Route.find r.method r.path.toList = .endpoint .enquiry)
    (caller : caller? e.circumstances r s.ledger = some user)
    (filled : (Body.read r).fill EnquiryForm.read = .value form) (h : e.directory.Foreign) :
    let result := ((Directory.ofSettings e.circumstances.settings).resolve form.bankCode form.number
      e.directory).result
    let status := (handle e r s).response.status
    (status = 200 ↔ ∃ name, result = .ok name ∧ name.IsName) ∧
      (status = 502 ↔ ∃ detail, result = .error (Directory.unavailable detail)) ∧
      (status = 500 ↔ ∃ name, result = .ok name ∧ ¬name.IsName) := by
  intro result status
  have hserved : serve e r s .enquiry = .ofExchange s
      ((Directory.ofSettings e.circumstances.settings).resolve form.bankCode form.number e.directory)
      (holderAnswer form) := by
    simp only [serve, withBody_of_fill filled, withUser_of_caller caller, filled, withInput]
  have hcases := Directory.resolve_cases (Directory.ofSettings e.circumstances.settings)
    form.bankCode form.number h
  have hgood : ∀ name, result = .ok name → ((∃ s, name = .text s) ↔ name.IsName) := by
    intro name hok
    rcases hcases with ⟨name', hok', hholds⟩ | ⟨detail, hno⟩
    · obtain rfl := Except.ok.inj (hok.symm.trans hok')
      exact (Json.isName_iff hholds).symm
    · cases hok.symm.trans hno
  have hstatus : status = (serve e r s .enquiry).response.status := status_handle hfind
  rw [hstatus, hserved]
  refine status_ofExchange (fun name hok => holderAnswer_value.trans (hgood name hok)) ?_
  exact hcases.imp_left (Exists.imp fun _ => And.left)

/-- Whatever the directory answers, the client gives codes and names that say something or refuses the answer.
A user who asks in due form is then answered, or told that the directory is not available: only where the
client passes on a name that is no text is there the answer of an unforeseen fault. -/
theorem foreign_answers_digested (reply : Reply) (h : reply.Foreign) :
    (∀ (d : Directory) (country : String),
      (∃ banks, (d.listBanks country reply).result = .ok banks ∧
        ∀ b ∈ banks, b.code ≠ "" ∧ (b.name.IsName ∨ b.name.holds = true ∧ ∀ s, b.name ≠ .text s)) ∨
      ∃ detail, (d.listBanks country reply).result = .error (.refusal (.directoryUnavailable detail))) ∧
    (∀ (d : Directory) (bankCode number : String),
      (∃ name, (d.resolve bankCode number reply).result = .ok name ∧
        (name.IsName ∨ name.holds = true ∧ ∀ s, name ≠ .text s)) ∨
      ∃ detail, (d.resolve bankCode number reply).result =
        .error (.refusal (.directoryUnavailable detail))) ∧
    ∀ (e : Surroundings) (r : Request) (s : Store) (user : User), e.directory = reply →
      caller? e.circumstances r s.ledger = some user →
      let d := Directory.ofSettings e.circumstances.settings
      let status := (handle e r s).response.status
      (Route.find r.method r.path.toList = .endpoint .banks → ∀ code, country e.door r = .value code →
        let result := (d.listBanks (Text.uppercase code) reply).result
        (status = 200 ↔ ∃ banks, result = .ok banks ∧ ∀ b ∈ banks, b.name.IsName) ∧
        (status = 502 ↔ ∃ detail, result = .error (.refusal (.directoryUnavailable detail))) ∧
        (status = 500 ↔ ∃ banks, result = .ok banks ∧ ¬∀ b ∈ banks, b.name.IsName)) ∧
      (Route.find r.method r.path.toList = .endpoint .enquiry →
        ∀ form, (Body.read r).fill EnquiryForm.read = .value form →
        let result := (d.resolve form.bankCode form.number reply).result
        (status = 200 ↔ ∃ name, result = .ok name ∧ name.IsName) ∧
        (status = 502 ↔ ∃ detail, result = .error (.refusal (.directoryUnavailable detail))) ∧
        (status = 500 ↔ ∃ name, result = .ok name ∧ ¬name.IsName)) := by
  have hname : ∀ v : Json, v.holds = true → v.IsName ∨ v.holds = true ∧ ∀ s, v ≠ .text s := by
    intro v hv
    by_cases htext : ∃ s, v = .text s
    · exact Or.inl ((Json.isName_iff hv).mpr htext)
    · exact Or.inr ⟨hv, fun s hs => htext ⟨s, hs⟩⟩
  refine ⟨fun d country => ?_, fun d bankCode number => ?_, ?_⟩
  · rcases Directory.listBanks_cases d country h with ⟨banks, hok, hbanks⟩ | hno
    · exact Or.inl ⟨banks, hok, fun b hb => ⟨(hbanks b hb).1, hname _ (hbanks b hb).2⟩⟩
    · exact Or.inr hno
  · rcases Directory.resolve_cases d bankCode number h with ⟨name, hok, hholds⟩ | hno
    · exact Or.inl ⟨name, hok, hname _ hholds⟩
    · exact Or.inr hno
  · rintro e r s user rfl caller d status
    exact ⟨fun hfind code asked => status_banks hfind caller asked h,
      fun hfind form filled => status_enquiry hfind caller filled h⟩

/-! ### A directory with one bank -/

/-- The answer of a directory that lists one bank, under a name. -/
def oneBank (name : Json) : Reply :=
  .answer 200 (Utf8.encode (Json.print .compact
    (.object [("data", .list [.object [("code", .text "1"), ("name", name)]])])))

theorem listBanks_oneBank {d : Directory} (hkey : d.key = none) (country : String) {name : Json}
    (hfaithful : name.Faithful) (hholds : name.holds = true) :
    (d.listBanks country (oneBank name)).result = .ok [{ code := "1", name }] := by
  have hbank : Json.Faithful (.object [("code", .text "1"), ("name", name)]) := by
    refine .object _ (by simp) fun f hf => ?_
    simp only [List.mem_cons, List.not_mem_nil, or_false] at hf
    rcases hf with rfl | rfl
    · exact .text "1"
    · exact hfaithful
  have hanswer : Json.Faithful
      (.object [("data", .list [.object [("code", .text "1"), ("name", name)]])]) := by
    refine .object _ (by simp) fun f hf => ?_
    rw [List.mem_singleton.mp hf]
    exact .list _ fun v hv => List.mem_singleton.mp hv ▸ hbank
  have hread := Json.ofBytes_print Json.Style.blank_compact hanswer
  have hcode : Directory.firstHolding (.object [("code", .text "1"), ("name", name)])
      ["code", "bankCode"] = some (.text "1") := rfl
  have hfound : Directory.firstHolding (.object [("code", .text "1"), ("name", name)])
      ["name", "bankName"] = some name := by
    simp [Directory.firstHolding, Json.get?, Json.Fields.get?, List.lookup_cons, Option.filter, hholds]
  have hitem : Directory.bank? (.object [("code", .text "1"), ("name", name)]) =
      some { code := "1", name } := by
    simp only [Directory.bank?, hcode, hfound]
    rfl
  simp [Directory.listBanks, Directory.ask, Directory.request, Directory.authorization, hkey, oneBank,
    Directory.readAnswer, isSuccess, hread, Except.bind, Directory.banks, Json.Fields.get?,
    Json.holds, hitem]

/-- The service in front of a directory that gives a reply. -/
def facing (reply : Reply) : Surroundings := { ready with directory := reply }

/-- John's request for the banks, of the country that is listed unless he names another. -/
def johnsBanks : Request := johnsRequest "GET" "/bank-accounts/banks" []

theorem find_johnsBanks : Route.find johnsBanks.method johnsBanks.path.toList = .endpoint .banks := by rfl

theorem country_johnsBanks (reply : Reply) :
    country (facing reply).door johnsBanks = .value ready.door.defaultCountry := by rfl

theorem caller?_johnsBanks (reply : Reply) :
    caller? (facing reply).circumstances johnsBanks (storeOf (john "chosen" true)).ledger =
      some (john "chosen" true) :=
  caller?_john ..

theorem listBanks_facing (reply : Reply) (country : String) {name : Json} (hfaithful : name.Faithful)
    (hholds : name.holds = true) :
    ((Directory.ofSettings (facing reply).circumstances.settings).listBanks country
      (oneBank name)).result = .ok [{ code := "1", name }] :=
  listBanks_oneBank rfl country hfaithful hholds

/-- A bank whose name is a number is passed on, but fits no answer: the user is told neither of banks nor
that the directory is not available. -/
theorem numbered_bank_faults :
    let reply := oneBank (.int 5)
    let e := facing reply
    let s := storeOf (john "chosen" true)
    reply.Foreign ∧ caller? e.circumstances johnsBanks s.ledger = some (john "chosen" true) ∧
      ¬(Json.int 5).IsName ∧
      (∀ country, ((Directory.ofSettings e.circumstances.settings).listBanks country reply).result =
        .ok [{ code := "1", name := .int 5 }]) ∧
      (handle e johnsBanks s).response.status = 500 := by
  intro reply e s
  have hname : ¬(Json.int 5).IsName := fun ⟨_, _, h⟩ => nomatch h
  have hlisted (country : String) := listBanks_facing reply country (.int 5 (by decide)) rfl
  have hcaller := caller?_johnsBanks reply
  refine ⟨.answer _ _, hcaller, hname, hlisted, ?_⟩
  have hstatus := status_banks (s := s) find_johnsBanks hcaller (country_johnsBanks reply)
    (.answer _ _)
  refine hstatus.2.2.mpr ⟨_, hlisted _, fun hgood => ?_⟩
  exact hname (hgood _ List.mem_cons_self)

/-- John is told of a bank with a name, and that the directory is not available if it cannot be reached. -/
theorem named_bank_told :
    let s := storeOf (john "chosen" true)
    let named := facing (oneBank (.text "First Bank"))
    let broken := facing (.fault (.exchange .connectError "boom"))
    named.directory.Foreign ∧ broken.directory.Foreign ∧
      caller? named.circumstances johnsBanks s.ledger = some (john "chosen" true) ∧
      (handle named johnsBanks s).response.status = 200 ∧
      (handle broken johnsBanks s).response.status = 502 := by
  intro s named broken
  have hnamed : named.directory.Foreign := .answer _ _
  have hbroken : broken.directory.Foreign := .fault _ _ rfl
  have hlisted (country : String) := listBanks_facing named.directory country (.text "First Bank") rfl
  have htold := ((foreign_answers_digested _ hnamed).2.2 named johnsBanks s _ rfl
    (caller?_johnsBanks _)).1 find_johnsBanks _ (country_johnsBanks _)
  have hrefused := ((foreign_answers_digested _ hbroken).2.2 broken johnsBanks s _ rfl
    (caller?_johnsBanks _)).1 find_johnsBanks _ (country_johnsBanks _)
  refine ⟨hnamed, hbroken, caller?_johnsBanks _, htold.1.mpr ⟨_, hlisted _, fun b hb => ?_⟩,
    hrefused.2.1.mpr ⟨_, rfl⟩⟩
  rw [List.mem_singleton.mp hb]
  exact ⟨"First Bank", by decide, rfl⟩

end Gateway

end PayoutRegistry
