import Mathlib.Data.List.Forall2
import PayoutRegistry.Proofs.Statuses

/-!
Requests against calls. A request of a user about their accounts is the call that it orders, with the texts of
the body as they stand, and its response tells the result: what the answer shows of an account is what
the row holds by then. So requests in a row are those calls in a row.
-/
namespace PayoutRegistry

/-! ### Forms that bodies fill in -/

namespace Checked

variable {α β : Type} {f : Checked (α → β)} {x : Checked α} {g : α → β} {a : α} {b : β}

theorem map_eq_value : g <$> x = .value b ↔ ∃ a, x = .value a ∧ g a = b := by
  cases x <;> simp [Functor.map, seq]

theorem seq_eq_value : f <*> x = .value b ↔ ∃ g a, f = .value g ∧ x = .value a ∧ g a = b := by
  cases f <;> cases x <;> simp [Seq.seq, seq]

theorem under_eq_value {place : Place} : x.under place = .value a ↔ x = .value a := by
  cases x <;> simp [under]

end Checked

/-- A field of an object is a text of a length between two limits. -/
structure Json.Fields.Spells (fields : Json.Fields) (key text : String) (least most : Nat) : Prop where
  found : get? fields key = some (.text text)
  least : least ≤ text.length
  most : text.length ≤ most

theorem Form.text_eq_value_iff {least most : Nat} {v : Json} {s : String} :
    text least (some most) v = .value s ↔ v = .text s ∧ least ≤ s.length ∧ s.length ≤ most := by
  constructor
  · intro h
    cases v with
    | text t =>
      simp only [text, anyText, Checked.bind] at h
      split at h
      · cases h
      · rename_i hleast
        split at h
        · cases h
        · rename_i hmost
          cases h
          exact ⟨rfl, Nat.not_lt.mp hleast, Nat.not_lt.mp hmost⟩
    | _ => cases h
  · rintro ⟨rfl, hleast, hmost⟩
    exact text_eq_value hleast (by simpa using hmost)

theorem Form.field_text {least most : Nat} {fields : Json.Fields} {key s : String} :
    field fields key (text least (some most)) = .value s ↔ fields.Spells key s least most := by
  simp only [field]
  cases hfound : Json.Fields.get? fields key with
  | none =>
    constructor
    · intro h
      cases h
    · rintro ⟨hsome, -, -⟩
      cases hfound.symm.trans hsome
  | some v =>
    rw [Checked.under_eq_value, text_eq_value_iff]
    constructor
    · rintro ⟨rfl, hleast, hmost⟩
      exact ⟨hfound, hleast, hmost⟩
    · rintro ⟨hsome, hleast, hmost⟩
      exact ⟨Option.some.inj (hfound.symm.trans hsome), hleast, hmost⟩

theorem Body.fill_eq_value {α : Type} {form : Json.Fields → Checked α} {b : Body} {a : α} :
    b.fill form = .value a ↔ ∃ fields, b = .value (.object fields) ∧ form fields = .value a := by
  constructor
  · intro h
    have h := Checked.under_eq_value.mp h
    cases b with
    | value v =>
      cases v with
      | object fields => exact ⟨fields, rfl, h⟩
      | _ => cases h
    | _ => cases h
  · rintro ⟨fields, rfl, h⟩
    exact Checked.under_eq_value.mpr h

/-- The form says what the fields say, text for text. -/
structure AccountForm.Written (form : AccountForm) (fields : Json.Fields) : Prop where
  number : fields.Spells "account_number" form.number 10 50
  holder : fields.Spells "account_name" form.holder 2 255
  bankName : fields.Spells "bank_name" form.bankName 2 100
  bankCode : fields.Spells "bank_code" form.bankCode 3 20

theorem AccountForm.read_eq_value {form : AccountForm} {fields : Json.Fields} :
    read fields = .value form ↔ form.Written fields := by
  simp only [read, Checked.seq_eq_value, Checked.map_eq_value, Form.field_text]
  constructor
  · rintro ⟨_, bankCode, ⟨_, bankName, ⟨_, holder, ⟨number, h₁, rfl⟩, h₂, rfl⟩, h₃, rfl⟩, h₄, rfl⟩
    exact ⟨h₁, h₂, h₃, h₄⟩
  · rintro ⟨h₁, h₂, h₃, h₄⟩
    exact ⟨_, _, ⟨_, _, ⟨_, _, ⟨_, h₁, rfl⟩, h₂, rfl⟩, h₃, rfl⟩, h₄, rfl⟩

theorem CodeForm.read_eq_value {form : CodeForm} {fields : Json.Fields} :
    read fields = .value form ↔ fields.Spells "verification_code" form.code 6 6 := by
  simp only [read, Checked.map_eq_value, Form.field_text]
  constructor
  · rintro ⟨code, h, rfl⟩
    exact h
  · intro h
    exact ⟨_, h, rfl⟩

/-! ### What requests order -/

namespace Gateway

/-- The calls that requests order, in the name of the user whom the token stands for. The texts of the body go
into the call as they are. -/
inductive Orders (e : Surroundings) (r : Request) (l : Ledger) : Action → Prop
  | add {user : User} {fields : Json.Fields} {form : AccountForm}
      (find : Route.find r.method r.path.toList = .endpoint .add)
      (caller : caller? e.circumstances r l = some user)
      (body : Body.read r = .value (.object fields)) (written : form.Written fields) :
      Orders e r l (.add e.courier { id := user.id, email := user.email } form none e.draw)
  | verify {account code : String} {user : User} {fields : Json.Fields} {id : Uuid}
      (find : Route.find r.method r.path.toList = .endpoint (.verify account))
      (caller : caller? e.circumstances r l = some user) (named : Uuid.ofForm? account = some id)
      (body : Body.read r = .value (.object fields))
      (written : fields.Spells "verification_code" code 6 6) :
      Orders e r l (.verify user.id id code)
  | list {user : User} (find : Route.find r.method r.path.toList = .endpoint .list)
      (caller : caller? e.circumstances r l = some user) : Orders e r l (.list user.id)
  | promote {account : String} {user : User} {id : Uuid}
      (find : Route.find r.method r.path.toList = .endpoint (.promote account))
      (caller : caller? e.circumstances r l = some user) (named : Uuid.ofForm? account = some id) :
      Orders e r l (.promote user.id id)
  | delete {account : String} {user : User} {id : Uuid}
      (find : Route.find r.method r.path.toList = .endpoint (.delete account))
      (caller : caller? e.circumstances r l = some user) (named : Uuid.ofForm? account = some id) :
      Orders e r l (.delete user.id id)

variable {e : Surroundings} {r : Request} {s : Store} {l : Ledger} {a : Action}

theorem accountId_eq_value {account : String} {id : Uuid} :
    accountId account = .value id ↔ Uuid.ofForm? account = some id := by
  rw [accountId, Checked.under_eq_value, Checked.under_eq_value, Form.uuid]
  cases Uuid.ofForm? account <;> simp [Checked.problem]

theorem orders_iff_asks :
    Orders e r l a ↔ ∃ p, Route.find r.method r.path.toList = .endpoint p ∧ Asks e r l p a := by
  constructor
  · intro h
    cases h with
    | add find caller body written =>
      exact ⟨_, find, .add caller (Body.fill_eq_value.mpr ⟨_, body, AccountForm.read_eq_value.mpr written⟩)⟩
    | @verify _ code _ fields _ find caller named body written =>
      have hread : CodeForm.read fields = .value { code } := CodeForm.read_eq_value.mpr written
      have hfill := Body.fill_eq_value.mpr ⟨fields, body, hread⟩
      exact ⟨_, find, .verify caller (accountId_eq_value.mpr named) hfill⟩
    | list find caller => exact ⟨_, find, .list caller⟩
    | promote find caller named => exact ⟨_, find, .promote caller (accountId_eq_value.mpr named)⟩
    | delete find caller named => exact ⟨_, find, .delete caller (accountId_eq_value.mpr named)⟩
  · rintro ⟨p, find, h⟩
    cases h with
    | add caller filled =>
      obtain ⟨fields, body, hread⟩ := Body.fill_eq_value.mp filled
      exact .add find caller body (AccountForm.read_eq_value.mp hread)
    | verify caller named filled =>
      obtain ⟨fields, body, hread⟩ := Body.fill_eq_value.mp filled
      exact .verify find caller (accountId_eq_value.mp named) body (CodeForm.read_eq_value.mp hread)
    | list caller => exact .list find caller
    | promote caller named => exact .promote find caller (accountId_eq_value.mp named)
    | delete caller named => exact .delete find caller (accountId_eq_value.mp named)

end Gateway

/-! ### What responses tell -/

/-- What an answer shows, read from the rows of a ledger. -/
def Answer.shown? (l : Ledger) : Answer → Option Json
  | .issued i => (l.account? i.id).map fun row =>
    IssuedAnswer.toJson { id := row.id, expiresInMinutes := i.minutes }
  | .verified v => (l.account? v.id).map fun row =>
    VerifiedAnswer.toJson { id := row.id, isVerified := row.isVerified, isPrimary := row.isPrimary }
  | .promoted p => (l.account? p.id).map fun row =>
    PrimaryAnswer.toJson { id := row.id, isPrimary := row.isPrimary }
  | .deleted => some (MessageAnswer.toJson { message := "Bank account deleted successfully" })
  | .listed rows => some (.list (rows.map fun row => AccountAnswer.toJson
      { id := row.id, number := row.number, holder := row.holder, bankName := row.bankName,
        bankCode := row.bankCode, isVerified := row.isVerified, isPrimary := row.isPrimary,
        createdAt := { wall := row.createdAt, offset := none } }))

/-- A request came to what a call came to, and its response tells the result. -/
structure Served.Tells (v : Served) (o : Outcome Answer) : Prop where
  store : v.store = o.store
  log : v.log = o.log
  handovers : v.handovers = o.handovers
  posted : v.posted = o.posted
  asked : v.asked = none
  success : ∀ x, o.result = .ok x → v.response.status = x.status ∧
    ∃ body, x.shown? o.store.ledger = some body ∧ v.response.content = .json body
  refusal : ∀ f, o.result = .error (.refusal f) → v.response.status = f.status ∧
    v.response.content = .json (.object [("detail", .text f.detail), ("error_type", .text f.kind)])
  retry : (∃ seconds, ("retry-after", seconds) ∈ v.response.headers) ↔
    ∃ detail, o.result = .error (.refusal (.transient detail))

/-- What calls come to, one after the other. -/
def Store.outcomes (s : Store) : List (Circumstances × Action) → List (Outcome Answer)
  | [] => []
  | (c, a) :: calls => a.perform c s :: (a.perform c s).store.outcomes calls

namespace Gateway

/-- What requests come to, one after the other. -/
def served (s : Store) : List (Surroundings × Request) → List Served
  | [] => []
  | (e, r) :: requests => handle e r s :: served (handle e r s).store requests

/-- Requests that order calls, each in the state in which the calls before it leave the store. -/
inductive Ordered : Store → List (Surroundings × Request) → List (Circumstances × Action) → Prop
  | nil {s : Store} : Ordered s [] []
  | cons {s : Store} {e : Surroundings} {r : Request} {a : Action}
      {requests : List (Surroundings × Request)} {calls : List (Circumstances × Action)}
      (orders : Orders e r s.ledger a) (more : Ordered (a.perform e.circumstances s).store requests calls) :
      Ordered s ((e, r) :: requests) ((e.circumstances, a) :: calls)

section Responses

variable {e : Surroundings} {r : Request} {s : Store} {a : Action} {c : Circumstances} {x : Answer}
  {l : Ledger} {f : Failure} {response : Response}

/-- The answer of a call that succeeds is what the rows show after it. -/
theorem shown?_accepted (h : s.ledger.Sound) (ha : Accepted c s a x l) :
    x.shown? l = some x.toJson := by
  cases ha with
  | @refresh _ _ form _ draw a t found waiting due =>
    obtain ⟨hmem, -⟩ := Ledger.registered?_some found
    have hrow := Ledger.account?_overwritten (a := Operation.refreshed a form (Code.ofDraw draw) t c.now)
      h hmem rfl
    simp only [Answer.shown?, hrow]
    rfl
  | @insert _ owner form _ draw t absent free due =>
    have hrow := Ledger.account?_added
      (a := Operation.newAccount s.nextId owner.id form (Code.ofDraw draw) t c.now) free
    simp only [Operation.newAccount] at hrow
    simp only [Answer.shown?, Operation.newAccount, hrow]
    rfl
  | @verify _ _ _ a found waiting code written due =>
    obtain ⟨hmem, rfl, rfl⟩ := Ledger.owned?_some found
    simp only [Answer.shown?, Ledger.account?_overwritten (a := admitted s.ledger a c.now) h hmem rfl]
    rfl
  | promote found proved =>
    obtain ⟨hmem, -, rfl⟩ := Ledger.owned?_some found
    simp only [Answer.shown?, Ledger.account?_promoted h hmem]
    rfl
  | delete found spare => rfl
  | list => rfl

/-- Marking a response for other origins adds no header by which clients are told to try again. -/
theorem mem_marked {seconds : String} :
    ("retry-after", seconds) ∈ (marked e r response).headers ↔ ("retry-after", seconds) ∈ response.headers := by
  rw [marked]
  split
  · rfl
  · rw [Origin.mark]
    split
    · simp only [List.mem_append, Origin.headers]
      split <;> simp
    · rfl

theorem retry_ofFailure : (∃ seconds, ("retry-after", seconds) ∈ (Response.ofFailure f).headers) ↔
    ∃ detail, f = .refusal (.transient detail) := by
  cases f with
  | refusal refusal => cases refusal <;> simp [Response.ofFailure, Refusal.retryAfter]
  | _ => simp [Response.ofFailure, Response.unauthenticated, Response.detail]

theorem marked_content : (marked e r response).content = response.content := by
  rw [marked, Origin.mark]
  split
  · rfl
  · split <;> rfl

/-- A request that orders a call comes to what the call comes to, and tells it. -/
theorem tells_handle (h : s.ledger.Sound) (horders : Orders e r s.ledger a) :
    (handle e r s).Tells (a.perform e.circumstances s) := by
  obtain ⟨p, hfind, hasks⟩ := orders_iff_asks.mp horders
  rw [handle_endpoint hfind, serve_asks hasks]
  refine ⟨rfl, rfl, rfl, rfl, rfl, ?_, ?_, ?_⟩
  · intro x hx
    have hshown := shown?_accepted h (perform_accepted h hx)
    refine ⟨?_, x.toJson, hshown, ?_⟩
    · rw [marked_status, Served.ofCall, hx]
      rfl
    · rw [marked_content, Served.ofCall, hx]
      rfl
  · intro f hf
    constructor
    · rw [marked_status, Served.ofCall, hf]
      rfl
    · rw [marked_content, Served.ofCall, hf]
      rfl
  · simp only [mem_marked, Served.ofCall]
    cases (a.perform e.circumstances s).result with
    | ok x => simp [Response.json]
    | error f => simpa only [Except.error.injEq] using retry_ofFailure

end Responses

/-- Requests in a row are the calls that they order in a row: each leaves the store, the log and the handovers
that its call leaves, and tells the result. An answer is what the rows show after the call; a refusal has its
own status and consists of its detail and its kind, and it is told to try again exactly if it is passing. -/
theorem requests_refine_calls (s : Store) (requests : List (Surroundings × Request))
    (calls : List (Circumstances × Action)) (h : s.ledger.Sound) (hordered : Ordered s requests calls) :
    List.Forall₂ Served.Tells (served s requests) (s.outcomes calls) := by
  induction hordered with
  | nil => exact .nil
  | @cons s e r a requests calls orders more ih =>
    have htells := tells_handle h orders
    refine .cons htells ?_
    rw [htells.store]
    exact ih (sound_perform h)

/-! ### John asks what he has, and adds an account -/

/-- A request that John sends with his token. -/
def johnsRequest (method path : String) (body : Bytes) : Request :=
  { method, host := "test", path, rawQuery := "", headers := [("authorization", "Bearer " ++ pass "abc")],
    body }

def johnsAccount : AccountForm :=
  { number := "0123456789", holder := "John Doe", bankName := "Test Bank", bankCode := "011" }

def asking : Request := johnsRequest "GET" "/bank-accounts" []

def addingHis : Request :=
  johnsRequest "POST" "/bank-accounts" (Utf8.encode (Json.print .compact johnsAccount.toJson))

theorem bearer?_john (method path : String) (body : Bytes) :
    bearer? (johnsRequest method path body) = some (pass "abc") := by
  have hname : "authorization".toLower = "authorization" := by decide +kernel
  have hheader : (johnsRequest method path body).header? "authorization" = some ("Bearer " ++ pass "abc") := by
    simp [Request.header?, johnsRequest, hname]
  exact bearer?_of_sign (sign_pass (by decide)) hheader

theorem caller?_john (method path : String) (body : Bytes) :
    caller? (keyed "abc") (johnsRequest method path body) (storeOf (john "chosen" true)).ledger =
      some (john "chosen" true) :=
  caller?_eq_some.mpr ⟨_, bearer?_john .., currentUser_pass readAs_abc⟩

theorem read_addingHis : Body.read addingHis = .value johnsAccount.toJson := by
  have hfaithful : Json.Faithful johnsAccount.toJson := by
    refine .object _ (by simp) fun f hf => ?_
    simp only [List.mem_cons, List.not_mem_nil, or_false] at hf
    rcases hf with rfl | rfl | rfl | rfl <;> exact .text _
  have hbody : addingHis.body = Utf8.encode (Json.print .compact johnsAccount.toJson) := by
    simp only [addingHis, johnsRequest]
  exact Body.read_print Json.Style.blank_compact hfaithful (by decide +kernel) hbody

theorem written_johnsAccount : johnsAccount.Written
    [("account_number", .text johnsAccount.number), ("account_name", .text johnsAccount.holder),
      ("bank_name", .text johnsAccount.bankName), ("bank_code", .text johnsAccount.bankCode)] :=
  ⟨⟨rfl, by decide, by decide⟩, ⟨rfl, by decide, by decide⟩, ⟨rfl, by decide, by decide⟩,
    ⟨rfl, by decide, by decide⟩⟩

theorem sound_storeOf (u : User) : (storeOf u).ledger.Sound := ⟨List.Pairwise.nil, nofun⟩

/-- John has no accounts yet, and is told so; the one that he adds then is there to be verified. -/
theorem johns_requests_told : ∃ first second : Served,
    served (storeOf (john "chosen" true)) [(ready, asking), (ready, addingHis)] = [first, second] ∧
      first.response.content = .json (.list []) ∧ second.response.status = 201 := by
  let owner : Owner := { id := (john "chosen" true).id, email := (john "chosen" true).email }
  have hordered : Ordered (storeOf (john "chosen" true)) [(ready, asking), (ready, addingHis)]
      [(keyed "abc", .list owner.id), (keyed "abc", .add ready.courier owner johnsAccount none ready.draw)] :=
    .cons (.list rfl (caller?_john ..)) <|
      .cons (.add rfl (caller?_john ..) read_addingHis written_johnsAccount) .nil
  have h := requests_refine_calls _ _ _ (sound_storeOf _) hordered
  obtain ⟨htold, hrest⟩ := List.forall₂_cons.mp h
  obtain ⟨hadded, -⟩ := List.forall₂_cons.mp hrest
  have hnone : (storeOf (john "chosen" true)).ledger.listing owner.id = [] := by
    simp [Ledger.listing, Ledger.ownedBy, storeOf]
  obtain ⟨-, body, hshown, hbody⟩ := htold.success (.listed []) (congrArg (Except.ok ∘ Answer.listed) hnone)
  refine ⟨_, _, rfl, ?_, ?_⟩
  · cases hshown
    exact hbody
  · exact (hadded.success (.issued { id := .ofSerial 2, minutes := 0 }) (by decide +kernel)).1

end Gateway

end PayoutRegistry
