import PayoutRegistry.Proofs.JsonText
import PayoutRegistry.Proofs.Requests
import PayoutRegistry.Proofs.Utf8

/-!
Sign-ins that are refused. A refusal reads the same for an unknown mail address, a wrong password and a user
who is not active, as long as the password is short enough to be hashed. A longer one ends in a fault, but
only where the mail address is known.
-/
namespace PayoutRegistry

/-- Every stored hash was made here, from some password. -/
def Ledger.Hashed (l : Ledger) : Prop :=
  ∀ u ∈ l.users, ∃ chosen, Password.hash chosen = .ok u.password

/-- Nobody may sign in like this: the mail address is unknown, or its user is not active or has chosen
another password. -/
def Ledger.Denies (l : Ledger) (form : LoginForm) : Prop :=
  ∀ u, l.userOfEmail? form.email = some u →
    u.isActive = false ∨ Password.hash form.password ≠ .ok u.password

theorem Password.hash_eq_ok {password : String} {h : PasswordHash} : Password.hash password = .ok h ↔
    password.length ≤ Password.maxLength ∧ h = .made password := by
  simp only [Password.hash]
  split
  · rename_i hlong
    simp [Nat.not_le.mpr hlong]
  · rename_i hshort
    simp [Nat.not_lt.mp hshort, eq_comm]

/-- Against a hash that was made here, only the length of a password can keep it from being checked. -/
theorem Password.verify_of_hash {chosen password : String} {h : PasswordHash}
    (hh : Password.hash chosen = .ok h) : Password.verify password h =
      if Password.maxLength < password.length then .error .passwordTooLong
      else .ok (decide (Password.hash password = .ok h)) := by
  obtain ⟨-, rfl⟩ := Password.hash_eq_ok.mp hh
  simp only [Password.verify]
  split
  · rfl
  · rename_i hshort
    have heq : (Password.hash password = .ok (.made chosen)) ↔ password = chosen := by
      rw [Password.hash_eq_ok]
      simp [Nat.not_lt.mp hshort, eq_comm]
    simp only [heq, beq_eq_decide]

section Outcomes

variable {c : Circumstances} {form : LoginForm} {l : Ledger} {u : User}

theorem login_unknown (h : l.userOfEmail? form.email = none) :
    Operation.login c form l = .error (.refusal .invalidCredentials) := by
  simp only [Operation.login, h]
  rfl

/-- What becomes of a sign-in with a mail address that is known. -/
theorem login_known (hl : l.Hashed) (h : l.userOfEmail? form.email = some u) :
    Operation.login c form l =
      if Password.maxLength < form.password.length then .error .passwordTooLong
      else if Password.hash form.password = .ok u.password ∧ u.isActive = true then
        (Operation.tokenFor c u).map fun token => { user := u, token }
      else .error (.refusal .invalidCredentials) := by
  obtain ⟨chosen, hh⟩ := hl u (List.mem_of_find?_eq_some h)
  simp only [Operation.login, h, Password.verify_of_hash hh]
  by_cases hlong : Password.maxLength < form.password.length
  · simp only [hlong, ↓reduceIte]
    rfl
  · simp only [hlong, ↓reduceIte]
    by_cases hp : Password.hash form.password = .ok u.password
    · cases ha : u.isActive with
      | false => simp [hp, bind, Except.bind, throw, throwThe, MonadExceptOf.throw]
      | true =>
        simp only [hp, decide_true, bind, Except.bind, Except.map]
        cases Operation.tokenFor c u <;> rfl
    · simp [hp, bind, Except.bind, throw, throwThe, MonadExceptOf.throw]

/-- A denied sign-in fails, and all that its failure depends on beside the password is whether the mail
address is known. -/
theorem login_denied (hl : l.Hashed) (hd : l.Denies form) : Operation.login c form l =
    if Password.maxLength < form.password.length ∧ (l.userOfEmail? form.email).isSome = true then
      .error .passwordTooLong
    else .error (.refusal .invalidCredentials) := by
  cases hu : l.userOfEmail? form.email with
  | none => simp [login_unknown hu]
  | some u =>
    rw [login_known hl hu]
    have hno : ¬(Password.hash form.password = .ok u.password ∧ u.isActive = true) := by
      rintro ⟨hp, ha⟩
      rcases hd u hu with hi | hw
      · rw [ha] at hi
        cases hi
      · exact hw hp
    simp [hno]

theorem denies_of_long (hlong : Password.maxLength < form.password.length) : l.Denies form := by
  intro u _
  refine Or.inr fun hp => ?_
  exact Nat.not_le.mpr hlong (Password.hash_eq_ok.mp hp).1

/-- The other way in which a sign-in can fail is that no token can be made. -/
theorem denies_of_login_error {f : Failure} (hl : l.Hashed)
    (h : Operation.login c form l = .error f) : l.Denies form ∨
      ∃ u, l.userOfEmail? form.email = some u ∧ Operation.tokenFor c u = .error f := by
  by_cases hd : l.Denies form
  · exact Or.inl hd
  · simp only [Ledger.Denies, not_forall, not_or, not_not] at hd
    obtain ⟨u, hu, ha, hp⟩ := hd
    have hshort := (Password.hash_eq_ok.mp hp).1
    rw [login_known hl hu, if_neg (Nat.not_lt.mpr hshort), if_pos ⟨hp, by simpa using ha⟩] at h
    exact Or.inr ⟨u, hu, map_eq_error.mp h⟩

end Outcomes

/-! ### Bodies -/

/-- A text that starts like an object with a field is taken for UTF-8, whatever follows. -/
theorem Encoding.detect_object (rest : Bytes) :
    detect (0x7b :: 0x22 :: rest) = (.utf8, 0x7b :: 0x22 :: rest) := by
  rcases rest with _ | ⟨b, _ | ⟨c, rest⟩⟩ <;> rfl

section Bodies

variable {style : Json.Style} {f : String × Json} {fields : Json.Fields}

theorem Json.ofBytes_print (hstyle : style.Blank) (h : Faithful (.object (f :: fields))) :
    ofBytes (Utf8.encode (print style (.object (f :: fields)))) = .ok (.object (f :: fields)) := by
  have hdetect : Encoding.detect (Utf8.encode (print style (.object (f :: fields)))) =
      (.utf8, Utf8.encode (print style (.object (f :: fields)))) := by
    obtain ⟨cs, hcs⟩ := printFields_start style f fields
    rw [Utf8.encode, toList_print_object, hcs]
    exact Encoding.detect_object _
  simp only [ofBytes, Encoding.decode?, hdetect, Utf8.decode?_encode, read_print hstyle h]

/-- A body that is the text of an object is read as that object. -/
theorem Body.read_print {r : Request} (hstyle : style.Blank) (h : Json.Faithful (.object (f :: fields)))
    (htype : (r.header? "content-type").getD "" = "")
    (hbody : r.body = Utf8.encode (Json.print style (.object (f :: fields)))) :
    Body.read r = .value (.object (f :: fields)) := by
  have hsome : r.body.isEmpty = false := by
    rw [hbody, Utf8.encode, Json.toList_print_object]
    rfl
  have hread : Json.ofBytes r.body = .ok (.object (f :: fields)) := by
    rw [hbody, Json.ofBytes_print hstyle h]
  simp only [Body.read, hsome, htype, hread, true_or, ↓reduceIte, Bool.false_eq_true]

end Bodies

/-! ### Requests -/

namespace Gateway

variable {e : Surroundings} {r : Request} {s : Store} {form : LoginForm}

/-- What a denied sign-in is answered, whatever the reason. -/
def refusedLogin : Response :=
  { status := 401, headers := [], content := .json (.object
      [("detail", .text "Invalid email or password"), ("error_type", .text "invalid_credentials")]) }

theorem serve_login (hfill : (Body.read r).fill LoginForm.read = .value form) :
    serve e r s .login = login e form s := by
  simp only [serve, withBody, rejection?_of_fill hfill, hfill, withInput]

theorem login_refused (hl : s.ledger.Hashed) (hd : s.ledger.Denies form)
    (hshort : form.password.length ≤ Password.maxLength) :
    login e form s = .only s refusedLogin := by
  have hlogin : Operation.login e.circumstances form s.ledger =
      .error (.refusal .invalidCredentials) := by
    rw [login_denied hl hd, if_neg fun h => Nat.not_lt.mpr hshort h.1]
  simp only [login, hlogin]
  rfl

/-- The answer to a sign-in that is denied in any case is one that does not look at the store. -/
theorem serve_login_denied (hl : s.ledger.Hashed)
    (hd : ∀ form, (Body.read r).fill LoginForm.read = .value form →
      form.password.length ≤ Password.maxLength ∧ s.ledger.Denies form) :
    serve e r s .login = .only s (match (Body.read r).rejection?, (Body.read r).fill LoginForm.read with
      | some response, _ => response
      | none, .value _ => refusedLogin
      | none, .issues list =>
        if (Body.read r).canTell list then .invalid list
        else .ofFailure (.value "a number is not finite")) := by
  cases hb : (Body.read r).rejection? with
  | some response => simp only [serve, withBody, hb]
  | none =>
    cases hf : (Body.read r).fill LoginForm.read with
    | value form =>
      obtain ⟨hshort, hdeny⟩ := hd form hf
      rw [serve_login hf, login_refused hl hdeny hshort]
    | issues list => simp only [serve, withBody, hb, hf, withInput]

end Gateway

/-- A denied sign-in ends in the same refusal for an unknown mail address, a wrong password and a user who is
not active, unless the password is too long to be hashed: then a known mail address shows. Requests are
answered alike whatever the reason. No other sign-in fails but for want of a token. -/
theorem denied_logins_alike_unless_long (c : Circumstances) (e : Surroundings) (s₁ s₂ : Store)
    (h₁ : s₁.ledger.Hashed) (h₂ : s₂.ledger.Hashed) :
    (∀ form : LoginForm, s₁.ledger.Denies form → Operation.login c form s₁.ledger = .error
      (if Password.maxLength < form.password.length ∧
          (s₁.ledger.userOfEmail? form.email).isSome = true then .passwordTooLong
        else .refusal .invalidCredentials)) ∧
    (∀ r : Request, Route.find r.method r.path.toList = .endpoint .login →
      (∀ form, (Body.read r).fill LoginForm.read = .value form →
        form.password.length ≤ Password.maxLength ∧ s₁.ledger.Denies form ∧ s₂.ledger.Denies form) →
      ∃ response, Gateway.handle e r s₁ = .only s₁ response ∧
        Gateway.handle e r s₂ = .only s₂ response ∧
        ∀ form, (Body.read r).fill LoginForm.read = .value form →
          response = Origin.mark e.door.allowedOrigins r Gateway.refusedLogin) ∧
    ∀ (form : LoginForm) (f : Failure), Operation.login c form s₁.ledger = .error f →
      s₁.ledger.Denies form ∨
        ∃ u, s₁.ledger.userOfEmail? form.email = some u ∧ Operation.tokenFor c u = .error f := by
  refine ⟨?_, ?_, ?_⟩
  · intro form hd
    rw [login_denied h₁ hd]
    split <;> rfl
  · intro r hfind hd
    have hserve₁ := Gateway.serve_login_denied (e := e) h₁ fun form hf =>
      ⟨(hd form hf).1, (hd form hf).2.1⟩
    have hserve₂ := Gateway.serve_login_denied (e := e) h₂ fun form hf =>
      ⟨(hd form hf).1, (hd form hf).2.2⟩
    refine ⟨_, Gateway.handle_of_serve_only hfind hserve₁, Gateway.handle_of_serve_only hfind hserve₂, ?_⟩
    intro form hf
    rw [Gateway.rejection?_of_fill hf, hf]
    rfl
  · intro form f h
    exact denies_of_login_error h₁ h

/-- The password of a form is the one in the body, whatever becomes of the mail address. -/
theorem password_of_fill {fields : Json.Fields} {password : String} {form : LoginForm}
    (hp : Json.Fields.get? fields "password" = some (.text password))
    (h : (Body.value (.object fields)).fill LoginForm.read = .value form) :
    form.password = password := by
  simp only [Body.fill, Form.record, LoginForm.read] at h
  generalize Form.field fields "email" Form.email = address at h
  simp only [Form.field, hp] at h
  cases address with
  | value address =>
    cases h
    rfl
  | issues list => cases h

/-- A user who has chosen a password. -/
def john (password : String) (isActive : Bool) : User :=
  { id := .ofSerial 1, email := "john@example.com", password := .made password, firstName := "John",
    lastName := "Doe", isActive, createdAt := default, updatedAt := default }

/-- A store in which there is one user. -/
def storeOf (u : User) : Store := { ledger := { users := [u], accounts := [] }, serial := 1 }

theorem hashed_storeOf (isActive : Bool) : (storeOf (john "chosen" isActive)).ledger.Hashed := by
  intro u hu
  rw [List.mem_singleton.mp hu]
  exact ⟨"chosen", rfl⟩

/-- A request to sign in as John. -/
def guess : Request :=
  { method := "POST", host := "test", path := "/auth/login", rawQuery := "", headers := [],
    body := Utf8.encode "\x7b\"email\": \"john@example.com\", \"password\": \"guessed\"\x7d" }

theorem read_guess : Body.read guess = .value (.object
    [("email", .text "john@example.com"), ("password", .text "guessed")]) := by
  have hprint : Json.print .spaced (.object
      [("email", .text "john@example.com"), ("password", .text "guessed")]) =
      "\x7b\"email\": \"john@example.com\", \"password\": \"guessed\"\x7d" := by
    decide +kernel
  have hfaithful : Json.Faithful (.object
      [("email", .text "john@example.com"), ("password", .text "guessed")]) := by
    refine .object _ (by decide) fun f hf => ?_
    simp only [List.mem_cons, List.not_mem_nil, or_false] at hf
    rcases hf with rfl | rfl <;> exact .text _
  exact Body.read_print Json.Style.blank_spaced hfaithful (by decide) (congrArg Utf8.encode hprint.symm)

theorem fill_guess {form : LoginForm} (h : (Body.read guess).fill LoginForm.read = .value form) :
    form.password = "guessed" := by
  rw [read_guess] at h
  exact password_of_fill (by simp [Json.Fields.get?, List.lookup_cons]) h

/-- With a wrong password, with one for a user who is not active, and with no user at all. -/
theorem guess_denied :
    Operation.login default { email := "john@example.com", password := "guessed" }
        (storeOf (john "chosen" true)).ledger = .error (.refusal .invalidCredentials) ∧
      ∃ response, Gateway.handle quiet guess (storeOf (john "chosen" false)) =
          .only (storeOf (john "chosen" false)) response ∧
        Gateway.handle quiet guess .empty = .only .empty response := by
  obtain ⟨hcall, -⟩ := denied_logins_alike_unless_long default quiet _ .empty (hashed_storeOf true) nofun
  obtain ⟨-, hserved, -⟩ :=
    denied_logins_alike_unless_long default quiet _ .empty (hashed_storeOf false) nofun
  constructor
  · refine (hcall _ ?_).trans (by rfl)
    intro u hu
    obtain rfl : john "chosen" true = u := Option.some.inj hu
    exact Or.inr (by decide)
  · have hdeny : ∀ form, (Body.read guess).fill LoginForm.read = .value form →
        form.password.length ≤ Password.maxLength ∧
          (storeOf (john "chosen" false)).ledger.Denies form ∧ Store.empty.ledger.Denies form := by
      intro form hf
      refine ⟨by rw [fill_guess hf]; decide, ?_, nofun⟩
      intro u hu
      rw [List.mem_singleton.mp (List.mem_of_find?_eq_some hu)]
      exact Or.inl rfl
    obtain ⟨response, hjohn, hnobody, -⟩ := hserved guess (by rfl) hdeny
    exact ⟨response, hjohn, hnobody⟩

/-- A password that nobody can have chosen. -/
def endless : LoginForm :=
  { email := "john@example.com", password := String.ofList (List.replicate 4097 'x') }

theorem length_endless : Password.maxLength < endless.password.length := by
  change 4096 < (String.ofList (List.replicate 4097 'x')).length
  rw [String.length_ofList, List.length_replicate]
  decide

/-- A long password fails in one way for John's mail address and in another where there is no John. -/
theorem denied_logins_differ : ¬∀ (c : Circumstances) (form : LoginForm) (l₁ l₂ : Ledger),
    l₁.Hashed → l₂.Hashed → l₁.Denies form → l₂.Denies form →
      Operation.login c form l₁ = Operation.login c form l₂ := by
  intro h
  have hsame := h default endless _ .empty (hashed_storeOf true) nofun
    (denies_of_long length_endless) (denies_of_long length_endless)
  rw [login_known (hashed_storeOf true) (u := john "chosen" true) rfl, if_pos length_endless,
    login_unknown rfl] at hsame
  cases hsame

end PayoutRegistry
