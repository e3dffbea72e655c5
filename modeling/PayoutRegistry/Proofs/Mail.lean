import PayoutRegistry.Proofs.Boundary
import PayoutRegistry.Proofs.Gate
import PayoutRegistry.Proofs.Handovers

/-!
The mail that goes out when an account is added. What it says of the code and of the minutes comes from the
settings, and so does what the row holds and what the answer says; all three agree.
-/
namespace PayoutRegistry

/-- A body that tells a code, and behind it the minutes for which it is valid. -/
def Mailer.Quotes (body code : String) (minutes : Int) : Prop :=
  ∃ before between after : String,
    body = before ++ code ++ between ++ "expire in " ++ toString minutes ++ " minutes" ++ after

/-- A mail that takes a code to an address. -/
structure Mailer.Brings (mail : Json) (email code : String) (minutes : Int) : Prop where
  addressed : mail.get? "To" = some (.text email)
  plain : ∃ body, mail.get? "TextBody" = some (.text body) ∧ Quotes body code minutes
  marked : ∃ body, mail.get? "HtmlBody" = some (.text body) ∧ Quotes body code minutes

/-- A request to the mail service that the settings name, in which a mail takes a code to an address. -/
structure Outgoing.Brings (o : Outgoing) (settings : Settings) (email code : String) (minutes : Int) :
    Prop where
  method : o.method = "POST"
  address : o.address = (WebAddress.ofText settings.mailUrl).text
  token : o.mailToken = settings.mailToken
  mail : ∃ mail, o.body = some mail ∧ Mailer.Brings mail email code minutes

/-- A request with a token is refused before any of it is sent: the token cannot be written as octets, or what
carries requests says so. -/
def Reply.Refuses (reply : Reply) (token : String) : Prop :=
  (∃ ch ∈ token.toList, 0x80 ≤ ch.toNat) ∨ ∃ f, reply = .unsent f

/-- What carries requests keeps to what headers can carry. -/
def Reply.Lawful (reply : Reply) (token : String) : Prop :=
  Header.carries token = false → reply.Refuses token

section Mails

variable {settings : Settings} {token : String} {reply : Reply} {email code : String}

theorem Mailer.quotes_plainBody (minutes : Int) (code : String) :
    Quotes (plainBody minutes code) code minutes := by
  have hbetween : ". This code will expire in " = ". This code will " ++ "expire in " := by decide
  have hafter : " minutes." = " minutes" ++ "." := by decide
  refine ⟨"Your bank account verification code is: ", ". This code will ", ".", ?_⟩
  change "Your bank account verification code is: " ++ code ++ ". This code will expire in " ++
    toString minutes ++ " minutes." = _
  rw [hbetween, hafter]
  simp only [String.append_assoc]

theorem Mailer.quotes_markedBody (minutes : Int) (code : String) :
    Quotes (markedBody minutes code) code minutes := by
  have hbetween : "<p>This code will expire in " = "<p>This code will " ++ "expire in " := by decide
  have hafter : " minutes. " = " minutes" ++ ". " := by decide
  refine ⟨"<p>Use the code below to verify your bank account.</p>" ++
    "<p style=\"font-size:24px;letter-spacing:4px\"><strong>", "</strong></p>" ++ "<p>This code will ",
    ". " ++ "If you did not request it, you can ignore this email.</p>", ?_⟩
  change "<p>Use the code below to verify your bank account.</p>" ++
    ("<p style=\"font-size:24px;letter-spacing:4px\"><strong>" ++ code ++ "</strong></p>") ++
    ("<p>This code will expire in " ++ toString minutes ++ " minutes. ") ++
    "If you did not request it, you can ignore this email.</p>" = _
  rw [hbetween, hafter]
  simp only [String.append_assoc]

theorem Mailer.brings_request (h : settings.mailToken = some token) (email code : String) :
    ((ofSettings settings token).request email code).Brings settings email code
      settings.codeMinutes where
  method := rfl
  address := rfl
  token := h.symm
  mail := ⟨_, rfl, rfl, ⟨_, rfl, quotes_plainBody ..⟩, ⟨_, rfl, quotes_markedBody ..⟩⟩

theorem Delivery.ofSettings_mail (h : settings.mailToken = some token) (hne : token ≠ "") :
    ofSettings settings = .mail (Mailer.ofSettings settings token) := by
  simp only [ofSettings, h]

/-- A mail that is not refused goes out, whatever becomes of it then. -/
theorem Delivery.request_send (h : settings.mailToken = some token) (hne : token ≠ "")
    (hsent : ¬reply.Refuses token) (email code : String) :
    ((ofSettings settings).send reply email code).request =
      some ((Mailer.ofSettings settings token).request email code) := by
  obtain ⟨hascii, hreply⟩ := not_or.mp hsent
  have hall : (Mailer.ofSettings settings token).token.toList.all (·.toNat < 0x80) = true := by
    simpa [Mailer.ofSettings] using hascii
  simp only [ofSettings_mail h hne, send, Mailer.send, hall, ↓reduceIte]
  cases reply with
  | fault f => rfl
  | unsent f => exact absurd ⟨f, rfl⟩ hreply
  | answer status body =>
    simp only
    split <;> rfl

/-- A mail that is refused does not go out. -/
theorem Delivery.request_send_none (h : settings.mailToken = some token) (hne : token ≠ "")
    (hrefused : reply.Refuses token) (email code : String) :
    ((ofSettings settings).send reply email code).request = none := by
  simp only [ofSettings_mail h hne, send, Mailer.send]
  split
  · rename_i hall
    rcases hrefused with ⟨ch, hch, hwide⟩ | ⟨f, rfl⟩
    · have hnarrow := List.all_eq_true.mp hall ch hch
      exact absurd (of_decide_eq_true hnarrow) (Nat.not_lt.mpr hwide)
    · rfl
  · rfl

end Mails

/-! ### Requests that add an account -/

theorem Response.status_ofFailure_ne (f : Failure) : (ofFailure f).status ≠ 201 := by
  cases f with
  | refusal refusal => cases refusal <;> simp [ofFailure, Refusal.status]
  | _ => simp [ofFailure, unauthenticated, detail]

namespace Gateway

section Requests

variable {e : Surroundings} {r : Request} {s : Store}

/-- Only a request that passes all checks is answered by an account that waits. -/
theorem asks_of_created (h : (serve e r s .add).response.status = 201) :
    ∃ a, Asks e r s.ledger .add a := by
  simp only [serve, withBody] at h
  split at h
  · rename_i response hrejected
    rcases (Request.garbled_of_rejection hrejected).2 with hstatus | hstatus
    · rw [Served.only, hstatus] at h
      cases h
    · rw [Served.only, hstatus] at h
      cases h
  · simp only [withUser] at h
    split at h
    · cases h
    · rename_i token hbearer
      split at h
      · exact absurd h (Response.status_ofFailure_ne _)
      · rename_i user huser
        simp only [withInput] at h
        split at h
        · rename_i form hfilled
          exact ⟨_, .add (caller?_eq_some.mpr ⟨token, hbearer, huser⟩) hfilled⟩
        · split at h
          · cases h
          · exact absurd h (Response.status_ofFailure_ne _)

/-- Nothing is sent unless an account waits. -/
theorem posted_of_not_created (h : (serve e r s .add).response.status ≠ 201) :
    (serve e r s .add).posted = [] := by
  rcases calls_serve (e := e) (r := r) s.ledger (p := .add) rfl with ⟨response, hr⟩ | ⟨a, hadds, ha⟩
  · have hserve : serve e r s .add = .only s response := hr s rfl
    rw [hserve]
    rfl
  · have hserve : serve e r s .add = .ofCall (a.perform e.circumstances s) := ha s rfl
    rw [hserve] at h ⊢
    cases hres : (a.perform e.circumstances s).result with
    | error f => exact (undone_perform hres).posted
    | ok x =>
      cases a with
      | add courier owner form given draw =>
        obtain ⟨i, -, rfl⟩ := map_eq_ok.mp hres
        simp only [Served.ofCall, hres] at h
        exact absurd rfl h
      | _ => cases hadds

/-- Adding an account posts what its courier makes of the code that the row then holds. -/
theorem posted_add {c : Circumstances} {courier : Courier} {owner : Owner} {form : AccountForm}
    {draw : Nat} {i : Issued} (hs : s.ledger.Sound)
    (hi : (Operation.add c courier owner form none draw s).result = .ok i) :
    ∃ row t, (Operation.add c courier owner form none draw s).store.ledger.account? row.id = some row ∧
      row.id = i.id ∧ row.owner = owner.id ∧ row.code = some (Code.ofDraw draw) ∧ row.deadline = some t ∧
      Code.deadline? c.settings.codeMinutes c.now = some t ∧ i.minutes = c.settings.codeMinutes ∧
      (Operation.add c courier owner form none draw s).posted =
        (courier owner.email (Code.ofDraw draw)).request.toList := by
  obtain ⟨-, -, hminutes, -⟩ := add_issued hi
  obtain ⟨row, t, hrow, howner, hcode, hdeadline, hdue⟩ := row_of_addition hs (add_accepted hs hi)
  obtain ⟨-, hid⟩ := Ledger.account?_some hrow
  rw [hminutes] at hdue
  refine ⟨row, t, hid ▸ hrow, hid, howner, hcode, hdeadline, hdue, hminutes, ?_⟩
  obtain ⟨t, ht, hok⟩ := add_ok hi
  rw [add_succeeded courier ht hok]

/-- A request that is answered by an account that waits posts what the courier makes of the code in its row. -/
theorem serve_created (hs : s.ledger.Sound) (h : (serve e r s .add).response.status = 201) :
    ∃ user row t, caller? e.circumstances r s.ledger = some user ∧
      (serve e r s .add).store.ledger.account? row.id = some row ∧ row.owner = user.id ∧
      row.code = some (Code.ofDraw e.draw) ∧ row.deadline = some t ∧
      Code.deadline? e.circumstances.settings.codeMinutes e.circumstances.now = some t ∧
      (serve e r s .add).response.content = .json (IssuedAnswer.toJson
        { id := row.id, expiresInMinutes := e.circumstances.settings.codeMinutes }) ∧
      (serve e r s .add).posted = (e.courier user.email (Code.ofDraw e.draw)).request.toList := by
  obtain ⟨a, hasks⟩ := asks_of_created h
  rw [serve_asks hasks] at h ⊢
  cases hasks with
  | @add user form caller filled =>
    simp only [Action.perform, Outcome.map, Served.ofCall] at h ⊢
    cases hi : (Operation.add e.circumstances e.courier { id := user.id, email := user.email } form none
        e.draw s).result with
    | error f =>
      rw [hi] at h
      exact absurd h (Response.status_ofFailure_ne f)
    | ok i =>
      obtain ⟨row, t, hrow, hid, howner, hcode, hdeadline, hdue, hminutes, hposted⟩ := posted_add hs hi
      refine ⟨user, row, t, caller, hrow, howner, hcode, hdeadline, hdue, ?_, hposted⟩
      rw [hid, ← hminutes]
      rfl

/-- A mail that is refused is not posted, whatever the request is answered. -/
theorem posted_refused {reply : Reply} {token : String} (hs : s.ledger.Sound)
    (hcourier : e.courier = (Delivery.ofSettings e.circumstances.settings).send reply)
    (htoken : e.circumstances.settings.mailToken = some token) (hne : token ≠ "") (hrefused : reply.Refuses token) :
    (serve e r s .add).posted = [] := by
  by_cases h : (serve e r s .add).response.status = 201
  · obtain ⟨user, -, -, -, -, -, -, -, -, -, hposted⟩ := serve_created hs h
    rw [hposted, hcourier, Delivery.request_send_none htoken hne hrefused, Option.toList_none]
  · exact posted_of_not_created h

theorem find_adding (hmethod : r.method = "POST") (hpath : r.path = "/bank-accounts") :
    Route.find r.method r.path.toList = .endpoint .add := by
  rw [hmethod, hpath]
  rfl

theorem posted_handle (hfind : Route.find r.method r.path.toList = .endpoint .add) :
    (handle e r s).posted = (serve e r s .add).posted := by
  rw [handle_endpoint hfind]

/-- The mail tells the truth, whatever database calls fail. A request that adds an account and is answered so
has one mail posted, to the user who asks, unless the mail is refused before any of it is sent. It tells the code that
the row holds, and the minutes that the answer tells and that lie between now and the deadline in the row. Any other
answer goes without a mail, and so does a token that no header can carry. -/
theorem mail_tells_truth (e : Surroundings) (r : Request) (s : Store) (reply : Reply) (token : String)
    (hs : s.ledger.Sound) (hmethod : r.method = "POST") (hpath : r.path = "/bank-accounts")
    (hcourier : e.courier = (Delivery.ofSettings e.circumstances.settings).send reply)
    (htoken : e.circumstances.settings.mailToken = some token) (hne : token ≠ "") :
    let v := handle e r s
    (v.response.status = 201 → ∃ (user : User) (row : Account) (code : String) (t : Instant) (minutes : Int),
      caller? e.circumstances r s.ledger = some user ∧
      v.store.ledger.account? row.id = some row ∧ row.owner = user.id ∧ row.code = some code ∧
      row.deadline = some t ∧ t.since e.circumstances.now = minutes * microsPerMinute ∧
      v.response.content =
        .json (IssuedAnswer.toJson { id := row.id, expiresInMinutes := minutes }) ∧
      (¬reply.Refuses token → ∃ o : Outgoing,
        v.posted = [o] ∧ o.Brings e.circumstances.settings user.email code minutes) ∧
      (reply.Refuses token → v.posted = [])) ∧
    (v.response.status ≠ 201 → v.posted = []) ∧
    (reply.Lawful token → Header.carries token = false → v.posted = []) := by
  rw [handle_endpoint (find_adding hmethod hpath)]
  simp only [marked_status, marked_content]
  refine ⟨?_, posted_of_not_created, ?_⟩
  · intro h
    obtain ⟨user, row, t, hcaller, hrow, howner, hcode, hdeadline, hdue, hcontent, hposted⟩ :=
      serve_created hs h
    refine ⟨user, row, Code.ofDraw e.draw, t, e.circumstances.settings.codeMinutes, hcaller, hrow, howner,
      hcode, hdeadline, ?_, hcontent, ?_, posted_refused hs hcourier htoken hne⟩
    · have hlater := Code.deadline?_some hdue
      simp only [Instant.since]
      omega
    · intro hsent
      rw [hposted, hcourier, Delivery.request_send htoken hne hsent, Option.toList_some]
      exact ⟨_, rfl, Mailer.brings_request htoken ..⟩
  · intro hlawful hcarries
    exact posted_refused hs hcourier htoken hne (hlawful hcarries)

end Requests

/-! ### John adds his account -/

/-- Surroundings in which mail goes out with a token. -/
def mailing (token : String) (reply : Reply) : Surroundings :=
  let c : Circumstances :=
    { keyed "abc" with settings := { (keyed "abc").settings with mailToken := some token } }
  { quiet with circumstances := c, courier := (Delivery.ofSettings c.settings).send reply }

theorem created_mailing (token : String) (reply : Reply) :
    (handle (mailing token reply) addingHis (storeOf (john "chosen" true))).response.status = 201 := by
  have hcaller : caller? (mailing token reply).circumstances addingHis (storeOf (john "chosen" true)).ledger =
      some (john "chosen" true) :=
    caller?_eq_some.mpr ⟨_, bearer?_john .., currentUser_john readAs_abc rfl (now_keyed "abc")⟩
  have hfill := Body.fill_eq_value.mpr
    ⟨_, read_addingHis, AccountForm.read_eq_value.mpr written_johnsAccount⟩
  have hdue : Code.deadline? 0 (keyed "abc").now = some (keyed "abc").now := by
    rw [Code.deadline?, Int.zero_mul, Instant.add?_zero]
  have hfree : (storeOf (john "chosen" true)).ledger.Free (storeOf (john "chosen" true)).nextId := by
    intro a ha
    cases ha
  obtain ⟨i, hi⟩ | ⟨refusal, hrefused, -⟩ := add_calm_cases (c := (mailing token reply).circumstances)
    (mailing token reply).courier { id := (john "chosen" true).id, email := (john "chosen" true).email }
    johnsAccount none (mailing token reply).draw (sound_storeOf (john "chosen" true)) rfl hfree hdue
  · rw [status_handle (p := .add) rfl, serve_asks (.add hcaller hfill)]
    simp only [Action.perform, Outcome.map, Served.ofCall, hi]
    rfl
  · -- He has no account that could stand in the way.
    cases hrefused with
    | unknown named => cases named
    | readded found => cases found

/-- John gets his code by mail. -/
theorem john_gets_mail : ∃ o code minutes,
    (handle (mailing "pm" (.answer 200 [])) addingHis (storeOf (john "chosen" true))).posted = [o] ∧
      o.Brings (mailing "pm" (.answer 200 [])).circumstances.settings "john@example.com" code minutes := by
  obtain ⟨htold, -, -⟩ := mail_tells_truth (mailing "pm" (.answer 200 [])) addingHis (storeOf (john "chosen" true))
    (.answer 200 []) "pm" (sound_storeOf _) rfl rfl rfl rfl (by decide)
  obtain ⟨user, row, code, t, minutes, hcaller, -, -, -, -, -, -, hmail, -⟩ :=
    htold (created_mailing "pm" (.answer 200 []))
  have hsent : ¬Reply.Refuses (.answer 200 []) "pm" := by
    simp [Reply.Refuses]
  obtain ⟨o, hposted, hbrings⟩ := hmail hsent
  have huser : user = john "chosen" true := Option.some.inj (hcaller.symm.trans
    (caller?_eq_some.mpr ⟨_, bearer?_john .., currentUser_john readAs_abc rfl (now_keyed "abc")⟩))
  rw [huser] at hbrings
  exact ⟨o, code, minutes, hposted, hbrings⟩

/-- A mail to John that is refused is not posted, although he is told that it was. -/
theorem johns_mail_refused {token : String} {reply : Reply} (hne : token ≠ "") (h : reply.Refuses token) :
    (handle (mailing token reply) addingHis (storeOf (john "chosen" true))).posted = [] := by
  rw [posted_handle (find_adding rfl rfl)]
  exact posted_refused (sound_storeOf _) rfl rfl hne h

/-- With a token that cannot be written as octets no mail goes out, although John is told that it did. Nor does one
with a token that ends a line, which what carries requests refuses. -/
theorem unsendable_token_posts_nothing :
    (¬∀ (e : Surroundings) (r : Request) (s : Store) (reply : Reply) (token : String),
      s.ledger.Sound → r.method = "POST" → r.path = "/bank-accounts" →
      e.courier = (Delivery.ofSettings e.circumstances.settings).send reply →
      e.circumstances.settings.mailToken = some token → token ≠ "" →
      (handle e r s).response.status = 201 → ∃ o, (handle e r s).posted = [o]) ∧
    let refusing := Reply.unsent (.exchange .localProtocolError "Illegal header value")
    let v := handle (mailing "pm\n" refusing) addingHis (storeOf (john "chosen" true))
    Header.carries "pm\n" = false ∧ refusing.Lawful "pm\n" ∧ v.response.status = 201 ∧ v.posted = [] := by
  constructor
  · intro h
    obtain ⟨o, ho⟩ := h (mailing "é" (.answer 200 [])) addingHis (storeOf (john "chosen" true)) (.answer 200 []) "é"
      (sound_storeOf _) rfl rfl rfl rfl (by decide) (created_mailing "é" _)
    have hrefused : Reply.Refuses (.answer 200 []) "é" := .inl ⟨'é', by simp, by decide⟩
    rw [johns_mail_refused (by decide) hrefused] at ho
    cases ho
  · exact ⟨by decide, fun _ => .inr ⟨_, rfl⟩, created_mailing "pm\n" _, johns_mail_refused (by decide) (.inr ⟨_, rfl⟩)⟩

end Gateway

end PayoutRegistry
