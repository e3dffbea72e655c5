import PayoutRegistry.Proofs.Login
import PayoutRegistry.Proofs.Tokens

/-!
Who a token stands for. Only a token that ends in the right digest stands for a user, and that user is in the
ledger and active; any other token gets one answer, which does not depend on the ledger.
-/
namespace PayoutRegistry

/-- A token taken apart, with all that is checked of it before it stands for a user. -/
structure Token.Pass (key : String) (now : Instant) (token : String) (id : Uuid) where
  header : String
  payload : String
  signature : String
  head : Json.Fields
  claims : Json.Fields
  spelling : String
  cuts : Token.Cuts token header payload signature
  signed : Base64Url.decode? (Utf8.encode signature) =
    some (Digest.mac .sha256 (Utf8.encode key) (Utf8.encode (header ++ "." ++ payload)))
  holdsHead : Token.Holds header head
  algorithm : Json.Fields.get? head "alg" = some (.text "HS256")
  holdsClaims : Token.Holds payload claims
  subject : Json.Fields.get? claims "sub" = some (.text spelling)
  spells : Uuid.ofLoose? spelling = some id
  lasts : ∀ v, Json.Fields.get? claims "exp" = some v →
    ∃ last, Token.lastSecond v = .ok last ∧ now.unixSeconds ≤ last

/-- The endpoints that ask who is there. -/
def Endpoint.guarded : Endpoint → Bool
  | .signup | .login | .health => false
  | _ => true

/-- The endpoints that look at the syntax of the body first. -/
def Endpoint.takesBody : Endpoint → Bool
  | .signup | .login | .enquiry | .add | .verify _ => true
  | _ => false

variable {c : Circumstances} {key token : String} {l : Ledger} {user : User} {id : Uuid}

theorem pass_of_subject (hread : Token.ReadAs c.settings.secretKey key)
    (halg : c.settings.algorithm = "HS256") (h : Token.subject c.settings token c.now = .ok id) :
    Nonempty (Token.Pass key c.now token id) := by
  have hhash : Token.hash? c.settings.algorithm = some .sha256 := by
    rw [halg]
    rfl
  obtain ⟨claims, spelling, hdecode, hsub, hspells⟩ := Token.subject_eq_ok.mp h
  obtain ⟨p, hparts, hsig, hclaims, hcheck⟩ := Token.decode_eq_ok.mp hdecode
  obtain ⟨header, payload, signature, hcuts, hhead, hpayload, hsignature, hsigned⟩ :=
    Token.parts_eq_ok.mp hparts
  obtain ⟨hname, hmac⟩ := (Token.checkSignature_eq_ok hread hhash).mp hsig
  obtain ⟨text, htext, hfields⟩ := Token.readObject_eq_ok.mp hclaims
  exact ⟨{ header, payload, signature, head := p.header, claims, spelling, cuts := hcuts
           signed := by rw [hsignature, ← hmac, hsigned]
           holdsHead := hhead
           algorithm := by rw [hname, halg]
           holdsClaims := ⟨p.payload, text, hpayload, htext, hfields⟩
           subject := hsub
           spells := hspells
           lasts := fun v hv => Token.expiry_of_check hcheck hv }⟩

theorem mapError_eq_ok {α : Type} {x : Except Failure α} {f : Failure → Failure} {a : α} :
    x.mapError f = .ok a ↔ x = .ok a := by
  cases x <;> simp [Except.mapError]

theorem currentUser_eq_ok : Operation.currentUser c token l = .ok user ↔
    Token.subject c.settings token c.now = .ok user.id ∧ l.user? user.id = some user ∧
      user.isActive = true := by
  simp only [Operation.currentUser, Token.bind_eq_ok, mapError_eq_ok]
  constructor
  · rintro ⟨id, hsub, h⟩
    split at h
    · rename_i found hfound
      split_ifs at h with hactive
      · cases h
        obtain rfl : user.id = id := by simpa using List.find?_some hfound
        exact ⟨hsub, hfound, hactive⟩
    · cases h
  · rintro ⟨hsub, hfound, hactive⟩
    refine ⟨user.id, hsub, ?_⟩
    simp only [hfound, hactive, ↓reduceIte, pure, Except.pure]

theorem currentUser_of_error {f : Failure} (h : Token.subject c.settings token c.now = .error f) (l : Ledger) :
    Operation.currentUser c token l = .error (Operation.asUnauthenticated f) := by
  simp only [Operation.currentUser, h]
  rfl

/-- A token that names a user is accepted, or refused in the usual way. -/
theorem currentUser_of_ok (h : Token.subject c.settings token c.now = .ok id) (l : Ledger) :
    (∃ user, Operation.currentUser c token l = .ok user) ∨
      Operation.currentUser c token l = .error .unauthenticated := by
  cases huser : Operation.currentUser c token l with
  | ok user => exact .inl ⟨user, rfl⟩
  | error f =>
    simp only [Operation.currentUser, h, Except.mapError, bind, Except.bind] at huser
    split at huser
    · split at huser <;> cases huser
      exact .inr rfl
    · cases huser
      exact .inr rfl

theorem currentUser_unsigned (hread : Token.ReadAs c.settings.secretKey key)
    (halg : c.settings.algorithm = "HS256") (h : ¬Token.Signed .sha256 key token) (l : Ledger) :
    Operation.currentUser c token l = .error .unauthenticated := by
  have hhash : Token.hash? c.settings.algorithm = some .sha256 := by
    rw [halg]
    rfl
  obtain ⟨m, hdecode⟩ := Token.decode_unsigned hread hhash h c.now
  refine currentUser_of_error (f := .token (.invalid m)) ?_ l
  simp only [Token.subject, hdecode]
  rfl

namespace Gateway

variable {e : Surroundings} {r : Request} {s : Store} {p : Endpoint}

/-- What somebody is told who has not shown who they are. -/
def unauthorized : Response :=
  { status := 401, headers := [("www-authenticate", "Bearer")],
    content := .json (.object [("detail", .text "Could not validate credentials")]) }

/-- What somebody is told for whom no token stands. -/
def denial (c : Circumstances) (r : Request) (l : Ledger) : Response :=
  match bearer? r with
  | none => .unauthenticated "Not authenticated"
  | some token =>
    match Operation.currentUser c token l with
    | .error f => .ofFailure f
    | .ok _ => unauthorized

theorem withUser_denied {serve : User → Served} (h : caller? e.circumstances r s.ledger = none) :
    withUser e r s serve = .only s (denial e.circumstances r s.ledger) := by
  simp only [withUser, denial]
  cases hbearer : bearer? r with
  | none => rfl
  | some token =>
    cases huser : Operation.currentUser e.circumstances token s.ledger with
    | error f => simp only [huser]
    | ok user =>
      rw [caller?_eq_some.mpr ⟨token, hbearer, huser⟩] at h
      cases h

theorem withBody_denied {serve : Body → User → Served} (h : caller? e.circumstances r s.ledger = none) :
    withBody r s (fun body => withUser e r s (serve body)) =
      .only s ((Body.read r).rejection?.getD (denial e.circumstances r s.ledger)) := by
  simp only [withBody, withUser_denied h]
  cases (Body.read r).rejection? <;> rfl

/-- An endpoint that asks who is there does not come to anything else, except that it may look at the syntax of
the body first. -/
theorem serve_denied (hp : p.guarded = true) (h : caller? e.circumstances r s.ledger = none) :
    serve e r s p = .only s ((if p.takesBody then (Body.read r).rejection? else none).getD
      (denial e.circumstances r s.ledger)) := by
  cases p with
  | signup => cases hp
  | login => cases hp
  | health => cases hp
  | banks => exact withUser_denied h
  | list => exact withUser_denied h
  | promote _ => exact withUser_denied h
  | delete _ => exact withUser_denied h
  | enquiry =>
    simp only [serve, Endpoint.takesBody, ↓reduceIte]
    exact withBody_denied h
  | add =>
    simp only [serve, Endpoint.takesBody, ↓reduceIte]
    exact withBody_denied h
  | verify _ =>
    simp only [serve, Endpoint.takesBody, ↓reduceIte]
    exact withBody_denied h

theorem serve_unauthenticated (hp : p.guarded = true) (hbearer : bearer? r = some token)
    (h : Operation.currentUser e.circumstances token s.ledger = .error .unauthenticated) :
    serve e r s p = .only s
      ((if p.takesBody then (Body.read r).rejection? else none).getD unauthorized) := by
  have hnobody : caller? e.circumstances r s.ledger = none := by
    simp only [caller?, hbearer, Option.bind_some, h, Except.toOption]
  have hdenial : denial e.circumstances r s.ledger = unauthorized := by
    simp only [denial, hbearer, h]
    rfl
  rw [serve_denied hp hnobody, hdenial]

end Gateway

/-! ### Tokens made here -/

/-- A token made here is found again in the header that brings it. -/
theorem Gateway.bearer?_of_sign {r : Request} {algorithm : String} {claims : Json.Fields}
    (h : Token.sign key algorithm claims = .ok token)
    (hheader : r.header? "authorization" = some ("Bearer " ++ token)) : bearer? r = some token := by
  have hcut : WebAddress.cut ' ' ("Bearer " ++ token).toList = ("Bearer".toList, some token.toList) := by
    rw [String.toList_append]
    rfl
  have hbearer : "Bearer".toLower = "bearer" := by decide +kernel
  have htrim : Text.trim token.toList = token.toList :=
    Text.trim_of_forall fun _ hc => Token.isBlank_of_mem_sign h hc
  simp only [bearer?, hheader, Option.bind_some, hcut, Option.getD_some, htrim, String.ofList_toList]
  exact if_pos hbearer

/-- A token made here stands for its user as long as it lasts and the user is active. -/
theorem currentUser_of_sign {last : Int} (hread : Token.ReadAs c.settings.secretKey key)
    (hlast : (Nat.toDigits 10 last.natAbs).length ≤ Json.maxDigits)
    (h : Token.sign key c.settings.algorithm (Token.ownClaims id last) = .ok token) (l : Ledger) :
    Operation.currentUser c token l = match l.user? id with
      | some user =>
        if user.isActive = true ∧ c.now.unixSeconds ≤ last then .ok user else .error .unauthenticated
      | none => .error .unauthenticated := by
  rw [Operation.currentUser, Token.subject_of_sign hread hlast h]
  by_cases hover : last < c.now.unixSeconds
  · have hno : ¬c.now.unixSeconds ≤ last := Int.not_le.mpr hover
    simp only [hover, hno, ↓reduceIte, and_false]
    cases l.user? id <;> rfl
  · have hyes : c.now.unixSeconds ≤ last := Int.not_lt.mp hover
    simp only [hover, hyes, ↓reduceIte, and_true]
    change (match l.user? id with | some user => _ | none => _) = _
    cases l.user? id with
    | none => rfl
    | some user => rfl

/-- A token stands for a user only if it ends in the digest that the key makes of the text before, names the
algorithm, has not expired and has the user's identifier for its subject, and only while that user is in the
ledger and active. A token that does not end in that digest is refused alike everywhere, and leaves the store
as it is. -/
theorem only_signed_tokens_stand_for_users (c : Circumstances) (key token : String)
    (halg : c.settings.algorithm = "HS256") (hread : Token.ReadAs c.settings.secretKey key) :
    (∀ (l : Ledger) (user : User), Operation.currentUser c token l = .ok user →
      Nonempty (Token.Pass key c.now token user.id) ∧ user ∈ l.users ∧ user.isActive = true) ∧
    (¬Token.Signed .sha256 key token →
      (∀ l : Ledger, Operation.currentUser c token l = .error .unauthenticated) ∧
      ∀ (e : Surroundings) (r : Request) (s : Store) (p : Endpoint), e.circumstances = c →
        Gateway.bearer? r = some token → Route.find r.method r.path.toList = .endpoint p →
        p.guarded = true → Gateway.handle e r s = .only s (Gateway.marked e r
          ((if p.takesBody then (Body.read r).rejection? else none).getD Gateway.unauthorized))) := by
  constructor
  · intro l user h
    obtain ⟨hsub, hfound, hactive⟩ := currentUser_eq_ok.mp h
    exact ⟨pass_of_subject hread halg hsub, List.mem_of_find?_eq_some hfound, hactive⟩
  · intro hunsigned
    have hrefused := currentUser_unsigned hread halg hunsigned
    refine ⟨hrefused, ?_⟩
    rintro e r s p rfl hbearer hfind hp
    exact Gateway.handle_of_serve_only hfind
      (Gateway.serve_unauthenticated hp hbearer (hrefused s.ledger))

/-- Circumstances with a secret, at the start of 1970. -/
def keyed (secret : String) : Circumstances :=
  { (default : Circumstances) with
    settings := { (default : Settings) with secretKey := secret, algorithm := "HS256" }
    now := { micros := Instant.epochMicros, micros_lt := by decide } }

theorem now_keyed (secret : String) : (keyed secret).now.unixSeconds = 0 := by
  simp [keyed, Instant.unixSeconds]

theorem user?_storeOf (u : User) : (storeOf u).ledger.user? u.id = some u := by
  simp [storeOf, Ledger.user?]

/-- John's token, made with a key. It lasts for the first second of 1970. -/
def pass (key : String) : String :=
  let text := Token.signedText "HS256" (Token.ownClaims (john "chosen" true).id 0)
  text ++ "." ++ Base64Url.encode (Digest.mac .sha256 (Utf8.encode key) (Utf8.encode text))

theorem readAs_abc : Token.ReadAs "abc" "abc" :=
  Token.readAs_self (by rfl) (Token.looksForeign_eq_false (by decide))

theorem readAs_quoted : Token.ReadAs "\"abc\"" "abc" := ⟨by decide +kernel, readAs_abc.usable⟩

theorem sign_pass {key : String} (h : '-' ∉ key.toList) :
    Token.sign key "HS256" (Token.ownClaims (john "chosen" true).id 0) = .ok (pass key) :=
  Token.sign_eq_ok.mpr ⟨.sha256, rfl, Token.looksForeign_eq_false h, rfl⟩

theorem currentUser_john {c : Circumstances} (hread : Token.ReadAs c.settings.secretKey "abc")
    (halg : c.settings.algorithm = "HS256") (hnow : c.now.unixSeconds = 0) :
    Operation.currentUser c (pass "abc") (storeOf (john "chosen" true)).ledger =
      .ok (john "chosen" true) := by
  have hlast : (Nat.toDigits 10 (0 : Int).natAbs).length ≤ Json.maxDigits := by decide
  rw [currentUser_of_sign hread hlast (halg ▸ sign_pass (by decide)), user?_storeOf, hnow]
  rfl

theorem currentUser_pass {secret : String} (hread : Token.ReadAs secret "abc") :
    Operation.currentUser (keyed secret) (pass "abc") (storeOf (john "chosen" true)).ledger =
      .ok (john "chosen" true) :=
  currentUser_john hread rfl (now_keyed secret)

/-- John's token is what was checked, and a text without a point is refused. -/
theorem pass_vouches : Nonempty (Token.Pass "abc" (keyed "abc").now (pass "abc") (john "chosen" true).id) ∧
    Operation.currentUser (keyed "abc") "fake" (storeOf (john "chosen" true)).ledger =
      .error .unauthenticated := by
  constructor
  · obtain ⟨hsound, -⟩ := only_signed_tokens_stand_for_users (keyed "abc") "abc" (pass "abc") rfl readAs_abc
    exact (hsound _ _ (currentUser_pass readAs_abc)).1
  · obtain ⟨-, hrefused⟩ := only_signed_tokens_stand_for_users (keyed "abc") "abc" "fake" rfl readAs_abc
    refine (hrefused ?_).1 _
    rintro ⟨text, signature, htoken, -, -⟩
    have hpoint : '.' ∈ "fake".toList := by
      rw [htoken]
      simp
    exact absurd hpoint (by decide)

set_option maxRecDepth 100000 in
theorem mac_quoted_ne :
    let text := Utf8.encode (Token.signedText "HS256" (Token.ownClaims (john "chosen" true).id 0))
    Digest.mac .sha256 (Utf8.encode "abc") text ≠ Digest.mac .sha256 (Utf8.encode "\"abc\"") text := by
  decide +kernel

/-- A secret in quotation marks is read as the text between them: a token that was signed with that text, not
with the secret, stands for John. -/
theorem quoted_secret_takes_other_key : ¬∀ (c : Circumstances) (token : String) (l : Ledger) (user : User),
    c.settings.algorithm = "HS256" → Operation.currentUser c token l = .ok user →
      Token.Signed .sha256 c.settings.secretKey token := by
  intro h
  have hsigned := h (keyed "\"abc\"") (pass "abc") _ _ rfl (currentUser_pass readAs_quoted)
  rw [pass, Token.signed_append (Base64Url.point_not_mem_encode _), Base64Url.decode?_encode] at hsigned
  exact mac_quoted_ne (Option.some.inj hsigned)

end PayoutRegistry
