import PayoutRegistry.Proofs.Statuses

/-!
Requests of nobody. An endpoint that asks who is there does so before anything else but a look at the syntax of
the body, so a request without an accepted token is refused without a trace, and the accounts do not show in
the refusal. The one exception is a token that cannot be read to its end.
-/
namespace PayoutRegistry

/-! ### Tokens that are not accepted -/

namespace Token

variable {settings : Settings} {token : String} {now : Instant} {claims : Json.Fields} {second : Int}
  {f : Failure} {key : String}

/-- The failure counts as a wrong token. -/
def Counts (f : Failure) : Prop := Operation.asUnauthenticated f = .unauthenticated

/-- The claims that are read as times. -/
def timeClaims : List String := ["iat", "nbf", "exp"]

/-- Reading a time breaks off at these values; all others are read or refused. -/
def hasNoTime : Json → Bool
  | .null | .list _ | .object _ | .real (.infinite _) => true
  | _ => false

/-- The ways in which reading a token breaks off: its signature is to be checked with a key that cannot be used,
or it is signed and one of its times is none. -/
inductive Breaks (settings : Settings) (token : String) : Failure → Prop
  | key {p : Parts} (apart : parts token = .ok p)
      (unusable : checkSignature settings p = .error .unusableKey) : Breaks settings token .unusableKey
  | time {p : Parts} {claims : Json.Fields} {name : String} {v : Json} {f : Failure}
      (apart : parts token = .ok p) (signed : checkSignature settings p = .ok ())
      (read : readObject "payload" p.payload = .ok claims) (timed : name ∈ timeClaims)
      (found : Json.Fields.get? claims name = some v) (none : hasNoTime v = true)
      (cause : f = .mistyped "" ∨ f = .overflow) : Breaks settings token f

theorem bind_eq_error {α β : Type} {x : Except Failure α} {g : α → Except Failure β} :
    x >>= g = .error f ↔ x = .error f ∨ ∃ a, x = .ok a ∧ g a = .error f := by
  cases x <;> simp [bind, Except.bind]

theorem wholeSeconds_error {refusal : TokenFault} {v : Json} (h : wholeSeconds refusal v = .error f) :
    Counts f ∨ hasNoTime v = true ∧ (f = .mistyped "" ∨ f = .overflow) := by
  cases v with
  | int _ | bool _ => cases h
  | text s =>
    simp only [wholeSeconds] at h
    split at h
    · cases h
    · cases h
      exact .inl rfl
  | real x =>
    cases x with
    | nan =>
      cases h
      exact .inl rfl
    | infinite negative =>
      cases h
      exact .inr ⟨rfl, .inr rfl⟩
    | _ => cases h
  | _ =>
    cases h
    exact .inr ⟨rfl, .inl rfl⟩

/-- A time among the claims is none, and the failure is that of reading it. -/
def LacksTime (claims : Json.Fields) (f : Failure) : Prop :=
  ∃ name ∈ timeClaims, ∃ v, Json.Fields.get? claims name = some v ∧ hasNoTime v = true ∧
    (f = .mistyped "" ∨ f = .overflow)

theorem timeClaim_error {name : String} {v : Json} {refusal : TokenFault} (hname : name ∈ timeClaims)
    (hv : Json.Fields.get? claims name = some v) (h : wholeSeconds refusal v = .error f) :
    Counts f ∨ LacksTime claims f :=
  (wholeSeconds_error h).imp_right fun hnone => ⟨name, hname, v, hv, hnone⟩

theorem checkIssued_error (h : checkIssued claims = .error f) : Counts f ∨ LacksTime claims f := by
  simp only [checkIssued] at h
  split at h
  · cases h
  · rename_i v hv
    exact timeClaim_error (by decide) hv (map_eq_error.mp h)

theorem checkNotBefore_error (h : checkNotBefore claims second = .error f) :
    Counts f ∨ LacksTime claims f := by
  simp only [checkNotBefore] at h
  split at h
  · cases h
  · rename_i v hv
    obtain h | ⟨start, -, h⟩ := bind_eq_error.mp h
    · exact timeClaim_error (by decide) hv h
    · split at h <;> cases h
      exact .inl rfl

theorem checkExpiry_error (h : checkExpiry claims second = .error f) : Counts f ∨ LacksTime claims f := by
  simp only [checkExpiry] at h
  split at h
  · cases h
  · rename_i v hv
    obtain h | ⟨last, -, h⟩ := bind_eq_error.mp h
    · exact timeClaim_error (by decide) hv h
    · split at h <;> cases h
      exact .inl rfl

theorem checkAudience_error (h : checkAudience claims = .error f) : Counts f := by
  simp only [checkAudience] at h
  split at h <;> cases h <;> rfl

theorem checkText_error {name message : String} (h : checkText claims name message = .error f) :
    Counts f := by
  simp only [checkText] at h
  split at h <;> cases h
  rfl

theorem checkAccessHash_error (h : checkAccessHash claims = .error f) : Counts f := by
  simp only [checkAccessHash] at h
  split at h <;> cases h
  rfl

/-- What is wrong with claims counts as such, unless one of their times is none. -/
theorem check_error (h : check claims second = .error f) : Counts f ∨ LacksTime claims f := by
  obtain h | ⟨-, -, h⟩ := bind_eq_error.mp h
  · exact checkIssued_error h
  obtain h | ⟨-, -, h⟩ := bind_eq_error.mp h
  · exact checkNotBefore_error h
  obtain h | ⟨-, -, h⟩ := bind_eq_error.mp h
  · exact checkExpiry_error h
  obtain h | ⟨-, -, h⟩ := bind_eq_error.mp h
  · exact .inl (checkAudience_error h)
  obtain h | ⟨-, -, h⟩ := bind_eq_error.mp h
  · exact .inl (checkText_error h)
  obtain h | ⟨-, -, h⟩ := bind_eq_error.mp h
  · exact .inl (checkText_error h)
  · exact .inl (checkAccessHash_error h)

theorem matchesKey_error {algorithm : String} {p : Parts} {keys : List (Option String)}
    (h : matchesKey algorithm p keys = .error f) : f = .unusableKey := by
  induction keys with
  | nil => cases h
  | cons key keys ih =>
    cases key with
    | none =>
      cases h
      rfl
    | some key =>
      simp only [matchesKey] at h
      split at h
      · cases h
        rfl
      · split at h
        · cases h
          rfl
        · split at h
          · cases h
          · exact ih h

theorem checkSignature_breaks {p : Parts} (h : checkSignature settings p = .error f) :
    Counts f ∨ f = .unusableKey := by
  simp only [checkSignature] at h
  split at h
  · cases h
    exact .inl rfl
  · split at h
    · split at h
      · cases h
        exact .inl rfl
      · obtain h | ⟨found, -, h⟩ := bind_eq_error.mp h
        · exact .inr (matchesKey_error h)
        · split at h <;> cases h
          exact .inl rfl
    · cases h
      exact .inl rfl

/-- What is wrong with a token either counts as such or is a way in which reading it breaks off. -/
theorem subject_error (h : subject settings token now = .error f) : Counts f ∨ Breaks settings token f := by
  simp only [subject] at h
  obtain h | ⟨claims, -, h⟩ := bind_eq_error.mp h
  · simp only [decode] at h
    obtain h | ⟨p, hparts, h⟩ := bind_eq_error.mp h
    · obtain ⟨m, rfl⟩ := parts_error h
      exact .inl rfl
    obtain hsig | ⟨⟨⟩, hsig, h⟩ := bind_eq_error.mp h
    · obtain hcounts | rfl := checkSignature_breaks hsig
      · exact .inl hcounts
      · exact .inr (.key hparts hsig)
    obtain h | ⟨claims, hclaims, h⟩ := bind_eq_error.mp h
    · obtain ⟨m, rfl⟩ := readObject_error h
      exact .inl rfl
    obtain h | ⟨-, -, h⟩ := bind_eq_error.mp h
    · obtain hcounts | ⟨name, hname, v, hv, hnone, hcause⟩ := check_error h
      · exact .inl hcounts
      · exact .inr (.time hparts hsig hclaims hname hv hnone hcause)
    · cases h
  · split at h
    · split at h <;> cases h
      exact .inl rfl
    · cases h
      exact .inl rfl

/-- A signed token, one of whose times is none. -/
def Timeless (hash : Digest.Hash) (key token : String) : Prop :=
  Signed hash key token ∧ ∃ header payload signature claims, Cuts token header payload signature ∧
    Holds payload claims ∧ ∃ name ∈ timeClaims, ∃ v, Json.Fields.get? claims name = some v ∧ hasNoTime v = true

/-- Where the key can be used, only signed tokens are read far enough to break off. -/
theorem Breaks.timeless {hash : Digest.Hash} (hread : ReadAs settings.secretKey key)
    (hhash : hash? settings.algorithm = some hash) (h : Breaks settings token f) :
    Timeless hash key token := by
  cases h with
  | key apart unusable =>
    obtain ⟨m, hm⟩ := checkSignature_error hread hhash unusable
    cases hm
  | @time p claims name v _ apart signed read timed found none cause =>
    obtain ⟨header, payload, signature, hcuts, -, hpayload, hdecode, hsigned⟩ := parts_eq_ok.mp apart
    obtain ⟨-, hmac⟩ := (checkSignature_eq_ok hread hhash).mp signed
    obtain ⟨text, htext, hclaims⟩ := readObject_eq_ok.mp read
    rw [← hmac, hsigned] at hdecode
    exact ⟨⟨_, signature, hcuts.whole, hcuts.last, hdecode⟩, header, payload, signature, claims, hcuts,
      ⟨p.payload, text, hpayload, htext, hclaims⟩, name, timed, v, found, none⟩

theorem Breaks.unchanged (h : Breaks settings token f) : Operation.asUnauthenticated f = f := by
  cases h with
  | key => rfl
  | time _ _ _ _ _ _ cause => obtain rfl | rfl := cause <;> rfl

theorem Breaks.status (h : Breaks settings token f) : (Response.ofFailure f).status = 500 := by
  cases h with
  | key => rfl
  | time _ _ _ _ _ _ cause => obtain rfl | rfl := cause <;> rfl

end Token

/-! ### Bodies that cannot be parsed -/

/-- A body was sent that is meant to be JSON, and cannot be read as such. -/
structure Request.Garbled (r : Request) : Prop where
  sent : r.body ≠ []
  meant : (r.header? "content-type").getD "" = "" ∨ Body.isJsonType ((r.header? "content-type").getD "") = true
  unreadable : ∃ fault, Json.ofBytes r.body = .error fault

theorem Request.garbled_of_rejection {r : Request} {response : Response}
    (h : (Body.read r).rejection? = some response) :
    r.Garbled ∧ (response.status = 422 ∨ response.status = 400) := by
  simp only [Body.read] at h
  split at h
  · cases h
  · rename_i hsent
    have hsent : r.body ≠ [] := by simpa using hsent
    split at h
    · rename_i hmeant
      split at h
      · cases h
      · rename_i hread
        cases h
        exact ⟨⟨hsent, hmeant, _, hread⟩, .inl rfl⟩
      · rename_i hread
        cases h
        exact ⟨⟨hsent, hmeant, _, hread⟩, .inr rfl⟩
    · cases h

theorem Request.rejection_eq_none {r : Request} (h : ¬r.Garbled) : (Body.read r).rejection? = none := by
  cases hrejection : (Body.read r).rejection? with
  | none => rfl
  | some response => exact absurd (garbled_of_rejection hrejection).1 h

theorem Request.Garbled.rejection {r : Request} (h : r.Garbled) :
    ∃ response, (Body.read r).rejection? = some response := by
  obtain ⟨hsent, hmeant, fault, hread⟩ := h
  have hsome : r.body.isEmpty = false := by simpa using hsent
  simp only [Body.read, hsome, hmeant, hread, Bool.false_eq_true, ↓reduceIte]
  cases fault <;> exact ⟨_, rfl⟩

namespace Gateway

variable {e : Surroundings} {c : Circumstances} {r : Request} {s : Store} {l l' : Ledger} {p : Endpoint}

/-! ### Refusals -/

/-- The request brings a token that cannot be read to its end. -/
def BreaksOff (c : Circumstances) (r : Request) : Prop :=
  ∃ token f, bearer? r = some token ∧ Token.subject c.settings token c.now = .error f ∧ ¬Token.Counts f

theorem BreaksOff.breaks (h : BreaksOff c r) :
    ∃ token f, bearer? r = some token ∧ Token.Breaks c.settings token f := by
  obtain ⟨token, f, hbearer, hf, hnot⟩ := h
  exact ⟨token, f, hbearer, (Token.subject_error hf).resolve_left hnot⟩

theorem currentUser_users {token : String} (h : l'.users = l.users) :
    Operation.currentUser c token l' = Operation.currentUser c token l := by
  simp only [Operation.currentUser, Ledger.user?, h]

theorem caller?_users (h : l'.users = l.users) : caller? c r l' = caller? c r l := by
  simp only [caller?, currentUser_users h]

theorem denial_users (h : l'.users = l.users) : denial c r l' = denial c r l := by
  simp only [denial, currentUser_users h]

/-- Whoever shows no accepted token is told so, unless reading the token breaks off. -/
theorem status_denial (c : Circumstances) (r : Request) (l : Ledger) :
    (BreaksOff c r → (denial c r l).status = 500) ∧ (¬BreaksOff c r → (denial c r l).status = 401) := by
  simp only [denial]
  cases hbearer : bearer? r with
  | none =>
    refine ⟨?_, fun _ => rfl⟩
    rintro ⟨token, f, htoken, -⟩
    cases hbearer.symm.trans htoken
  | some token =>
    cases hf : Token.subject c.settings token c.now with
    | ok id =>
      constructor
      · rintro ⟨token', f, htoken, hf', -⟩
        obtain rfl := Option.some.inj (hbearer.symm.trans htoken)
        cases hf.symm.trans hf'
      · intro _
        obtain ⟨user, huser⟩ | huser := currentUser_of_ok hf l <;> simp only [huser] <;> rfl
    | error f =>
      simp only [currentUser_of_error hf]
      constructor
      · rintro ⟨token', f', htoken, hf', hnot⟩
        obtain rfl := Option.some.inj (hbearer.symm.trans htoken)
        obtain rfl := Except.error.inj (hf.symm.trans hf')
        have hbreaks := (Token.subject_error hf).resolve_left hnot
        rw [hbreaks.unchanged]
        exact hbreaks.status
      · intro hnot
        have hcounts : Token.Counts f := not_not.mp fun h => hnot ⟨token, f, hbearer, hf, h⟩
        rw [show Operation.asUnauthenticated f = .unauthenticated from hcounts]
        rfl

/-- A request to an endpoint that asks who is there, of nobody that is known, leaves the store as it is and
nothing in the log, and nobody else is asked or told anything. The response is the same whatever the accounts:
the status is 401, or that of a body that cannot be parsed, or that of a fault where reading the token breaks
off. With a key that can be used, this takes a signed token with a time that is none. -/
theorem guarded_endpoints_ask_first (e : Surroundings) (r : Request) (s : Store) (p : Endpoint)
    (hfind : Route.find r.method r.path.toList = .endpoint p) (hp : p.guarded = true)
    (hnobody : caller? e.circumstances r s.ledger = none) :
    (∃ response : Response,
      (∀ s' : Store, s'.ledger.users = s.ledger.users → handle e r s' = .only s' response) ∧
      (p.takesBody = true ∧ r.Garbled → response.status = 422 ∨ response.status = 400) ∧
      (¬(p.takesBody = true ∧ r.Garbled) →
        (¬BreaksOff e.circumstances r → response.status = 401) ∧
        (BreaksOff e.circumstances r → response.status = 500))) ∧
    ∀ key, e.circumstances.settings.algorithm = "HS256" →
      Token.ReadAs e.circumstances.settings.secretKey key → BreaksOff e.circumstances r →
        ∃ token, bearer? r = some token ∧ Token.Timeless .sha256 key token := by
  constructor
  · refine ⟨marked e r ((if p.takesBody then (Body.read r).rejection? else none).getD
      (denial e.circumstances r s.ledger)), ?_, ?_, ?_⟩
    · intro s' husers
      have hnobody' : caller? e.circumstances r s'.ledger = none := (caller?_users husers).trans hnobody
      rw [handle_of_serve_only hfind (serve_denied hp hnobody'), denial_users husers]
    · rintro ⟨htakes, hgarbled⟩
      obtain ⟨response, hresponse⟩ := hgarbled.rejection
      rw [marked_status, if_pos htakes, hresponse]
      exact (Request.garbled_of_rejection hresponse).2
    · intro hclear
      have hnone : (if p.takesBody then (Body.read r).rejection? else none) = none := by
        split
        · rename_i htakes
          exact Request.rejection_eq_none fun hgarbled => hclear ⟨htakes, hgarbled⟩
        · rfl
      rw [marked_status, hnone]
      exact (status_denial e.circumstances r s.ledger).symm
  · intro key halg hread hbreaks
    obtain ⟨token, f, hbearer, hbreaks⟩ := hbreaks.breaks
    refine ⟨token, hbearer, hbreaks.timeless hread ?_⟩
    rw [halg]
    rfl

/-! ### A token without an end -/

/-- Claims for no identifier, of which the end is null. -/
def undatedClaims : Json.Fields := [("sub", .text "nobody"), ("exp", .null)]

/-- The token of these claims, signed with the key. -/
def undated : String :=
  let text := Token.signedText "HS256" undatedClaims
  text ++ "." ++ Base64Url.encode (Digest.mac .sha256 (Utf8.encode "abc") (Utf8.encode text))

def undatedRequest : Request :=
  { method := "GET", host := "test", path := "/bank-accounts", rawQuery := "",
    headers := [("authorization", "Bearer " ++ undated)], body := [] }

theorem sign_undated : Token.sign "abc" "HS256" undatedClaims = .ok undated :=
  Token.sign_eq_ok.mpr ⟨.sha256, rfl, Token.looksForeign_eq_false (by decide), rfl⟩

theorem bearer?_undated : bearer? undatedRequest = some undated := by
  have hname : "authorization".toLower = "authorization" := by decide +kernel
  refine bearer?_of_sign sign_undated ?_
  simp [Request.header?, undatedRequest, hname]

theorem breaksOff_undated : BreaksOff (keyed "abc") undatedRequest := by
  have hfaithful : Json.Faithful (.object undatedClaims) := by
    refine .object _ (by simp [undatedClaims]) fun f hf => ?_
    simp only [undatedClaims, List.mem_cons, List.not_mem_nil, or_false] at hf
    obtain rfl | rfl := hf
    · exact .text _
    · exact .null
  have hdecode : Token.decode (keyed "abc").settings undated (keyed "abc").now =
      (Token.check undatedClaims (keyed "abc").now.unixSeconds).map fun _ => undatedClaims :=
    Token.decode_of_sign readAs_abc hfaithful sign_undated
  refine ⟨undated, .mistyped "", bearer?_undated, ?_, nofun⟩
  simp only [Token.subject, hdecode]
  rfl

theorem caller?_undated : caller? (keyed "abc") undatedRequest (storeOf (john "chosen" true)).ledger = none := by
  obtain ⟨token, f, hbearer, hf, -⟩ := breaksOff_undated
  simp only [caller?, hbearer, Option.bind_some, currentUser_of_error hf, Except.toOption]

/-- A request without a token is told that one is missing, and one whose token has no end runs into a fault. -/
theorem strangers_answered :
    (handle quiet anonymous .empty).response.status = 401 ∧
      (handle ready undatedRequest (storeOf (john "chosen" true))).response.status = 500 := by
  constructor
  · obtain ⟨⟨response, hhandle, -, hclear⟩, -⟩ :=
      guarded_endpoints_ask_first quiet anonymous .empty (.delete "x") rfl rfl rfl
    have hcalm : ¬BreaksOff quiet.circumstances anonymous := by
      rintro ⟨token, f, hbearer, -⟩
      cases hbearer
    rw [hhandle .empty rfl]
    exact (hclear nofun).1 hcalm
  · obtain ⟨⟨response, hhandle, -, hclear⟩, -⟩ := guarded_endpoints_ask_first ready undatedRequest
      (storeOf (john "chosen" true)) .list rfl rfl caller?_undated
    rw [hhandle _ rfl]
    exact (hclear nofun).2 breaksOff_undated

/-- Not every request of nobody is told so: a signed token whose end is null breaks the check off. -/
theorem undated_token_faults : ¬∀ (e : Surroundings) (r : Request) (s : Store) (p : Endpoint),
    Route.find r.method r.path.toList = .endpoint p → p.guarded = true →
      caller? e.circumstances r s.ledger = none →
        (handle e r s).response.status = 401 ∨ p.takesBody = true ∧ r.Garbled ∧
          ((handle e r s).response.status = 422 ∨ (handle e r s).response.status = 400) := by
  intro h
  have hfault : (handle ready undatedRequest (storeOf (john "chosen" true))).response.status = 500 := by
    have hserve : serve ready undatedRequest (storeOf (john "chosen" true)) .list = .only _ _ :=
      withUser_denied caller?_undated
    rw [handle_of_serve_only rfl hserve]
    exact (marked_status _).trans ((status_denial _ _ _).1 breaksOff_undated)
  obtain hstatus | ⟨htakes, -⟩ := h ready undatedRequest (storeOf (john "chosen" true)) .list rfl rfl
    caller?_undated
  · cases hfault.symm.trans hstatus
  · cases htakes

end Gateway

end PayoutRegistry
