import PayoutRegistry.Proofs.Ascii
import PayoutRegistry.Proofs.Identity
import PayoutRegistry.Proofs.Refusals
import PayoutRegistry.Proofs.TokenLife
import PayoutRegistry.Proofs.Traffic

/-!
The statuses of answers. A request that fills in its form, from a user with a token where one is asked for,
gets one of the answers that its endpoint is there to give. Two things can trip it up: a password that is
too long to be hashed, and settings by which no token can be made.
-/
namespace PayoutRegistry

/-- A token can be made: its end is within the calendar, and there are a hash and a secret to sign with. -/
structure Circumstances.CanSign (c : Circumstances) : Prop where
  ends : ∃ last, c.now.add? (c.settings.tokenMinutes * microsPerMinute) = some last
  algorithm : ∃ hash, Token.hash? c.settings.algorithm = some hash
  secret : Token.looksForeign c.settings.secretKey = false

/-- Signing up trips over a password that is too long, or over a token that cannot be made. -/
def SignupForm.Stumbles (form : SignupForm) (c : Circumstances) (l : Ledger) : Prop :=
  l.userOfEmail? form.email = none ∧ (Password.maxLength < form.password.length ∨ ¬c.CanSign)

/-- Signing in trips over the same, if the mail address is known and, for the token, the password right. -/
def LoginForm.Stumbles (form : LoginForm) (c : Circumstances) (l : Ledger) : Prop :=
  ∃ u, l.userOfEmail? form.email = some u ∧ (Password.maxLength < form.password.length ∨
    Password.hash form.password = .ok u.password ∧ u.isActive = true ∧ ¬c.CanSign)

/-- The statuses of the answers that an endpoint for users and their accounts is there to give. -/
def Endpoint.statuses : Endpoint → List Nat
  | .signup | .add => [201, 409]
  | .login => [200, 401]
  | .verify _ => [200, 400, 404, 409]
  | .list => [200]
  | .promote _ => [200, 400, 404]
  | .delete _ => [200, 404, 409]
  | .banks | .enquiry | .health => []

namespace Gateway

/-- A request brings all that its endpoint asks for. -/
inductive Admits (e : Surroundings) (r : Request) (l : Ledger) : Endpoint → Prop
  | signup {form : SignupForm} (filled : (Body.read r).fill SignupForm.read = .value form) :
      Admits e r l .signup
  | login {form : LoginForm} (filled : (Body.read r).fill LoginForm.read = .value form) :
      Admits e r l .login
  | account {p : Endpoint} {a : Action} (asks : Asks e r l p a) : Admits e r l p

/-- A request to sign up or in that trips. -/
inductive Stumbles (e : Surroundings) (r : Request) (l : Ledger) : Endpoint → Prop
  | signup {form : SignupForm} (filled : (Body.read r).fill SignupForm.read = .value form)
      (trips : form.Stumbles e.circumstances l) : Stumbles e r l .signup
  | login {form : LoginForm} (filled : (Body.read r).fill LoginForm.read = .value form)
      (trips : form.Stumbles e.circumstances l) : Stumbles e r l .login

end Gateway

/-! ### Tokens -/

section Tokens

variable {c : Circumstances} {u : User} {f : Failure}

theorem exists_tokenFor_iff : (∃ token, Operation.tokenFor c u = .ok token) ↔ c.CanSign := by
  constructor
  · rintro ⟨token, h⟩
    obtain ⟨last, hlast, hsign⟩ := tokenFor_eq_ok.mp h
    obtain ⟨hash, halg, hsecret, -⟩ := Token.sign_eq_ok.mp hsign
    exact ⟨⟨last, hlast⟩, ⟨hash, halg⟩, hsecret⟩
  · rintro ⟨⟨last, hlast⟩, ⟨hash, halg⟩, hsecret⟩
    exact ⟨_, tokenFor_eq_ok.mpr ⟨last, hlast, Token.sign_eq_ok.mpr ⟨hash, halg, hsecret, rfl⟩⟩⟩

theorem not_canSign (h : Operation.tokenFor c u = .error f) : ¬c.CanSign := by
  intro hcan
  obtain ⟨token, htoken⟩ := exists_tokenFor_iff.mpr hcan
  rw [h] at htoken
  cases htoken

/-- Why there is no token is not told. -/
theorem status_of_tokenFor_error (h : Operation.tokenFor c u = .error f) :
    (Response.ofFailure f).status = 500 := by
  simp only [Operation.tokenFor, Token.create, Token.sign] at h
  split at h
  · cases h
    rfl
  · split at h
    · cases h
      rfl
    · split at h
      · cases h
        rfl
      · cases h

end Tokens

/-! ### Signing up and signing in -/

section SigningIn

variable {e : Surroundings} {s : Store} {form : SignupForm}

theorem Ledger.userOfEmail?_none {l : Ledger} {email : String} {u : User}
    (h : l.userOfEmail? email = none) (hu : u ∈ l.users) : u.email ≠ email := by
  simpa using List.find?_eq_none.mp h u hu

/-- A user with a new number and a new mail address fits in. -/
theorem execute_newUser (hgiven : ∀ u ∈ s.ledger.users, s.Given u.id)
    (hsupply : s.serial + 1 < Uuid.supply)
    (hunknown : s.ledger.userOfEmail? form.email = none) (password : PasswordHash) (now : Instant) :
    ∃ l, s.ledger.execute (.insertUser (Operation.newUser s.nextId form password now)) = .ok l := by
  have hfits : Ledger.fitsUser (Operation.newUser s.nextId form password now) s.ledger.users = true := by
    refine List.all_eq_true.mpr fun v hv => ?_
    have hid : v.id ≠ s.nextId := (hgiven v hv).ne_ofSerial (Nat.lt_succ_self _) hsupply
    have hemail : v.email ≠ form.email := Ledger.userOfEmail?_none hunknown hv
    simp [Operation.newUser, hid.symm, hemail.symm]
  exact ⟨_, if_pos hfits⟩

/-- What becomes of signing up where no call fails and there is a number to give. -/
theorem signup_calm {c : Circumstances} (form : SignupForm) (hcalm : c.mishaps = calm)
    (hgiven : ∀ u ∈ s.ledger.users, s.Given u.id) (hsupply : s.serial + 1 < Uuid.supply) :
    (Operation.signup c form s).result =
      if (s.ledger.userOfEmail? form.email).isSome then .error (.refusal (.duplicateEmail form.email))
      else (Password.hash form.password).bind fun password =>
        let user := Operation.newUser s.nextId form password c.now
        (Operation.tokenFor c user).map fun token => { user, token } := by
  simp only [Operation.signup]
  cases hu : s.ledger.userOfEmail? form.email with
  | some u => rfl
  | none =>
    cases hp : Password.hash form.password with
    | error f => rfl
    | ok password =>
      obtain ⟨l, hl⟩ := execute_newUser hgiven hsupply hu password c.now
      have hcarried : s.ledger.carried calm 0 [.flush [.insertUser
          (Operation.newUser s.nextId form password c.now)]] = .ok l := by
        have heffects := (Ledger.effects_one _).trans ((Ledger.effect_flush_one _).trans hl)
        rw [carried_eq heffects]
        rfl
      obtain ⟨hres, -⟩ := Store.carryOut_ok hcarried
      simp only [Option.isSome_none, Bool.false_eq_true, ↓reduceIte, Pending.andThen, hcalm, hres]
      rfl

/-- Every stored hash is one that was made when its user signed up. -/
theorem hashed_after (events : List Event) : (after events).ledger.Hashed := by
  induction events with
  | nil => exact nofun
  | cons event past ih =>
    intro u hu
    rw [after] at hu
    obtain hl | ⟨c, a, x, rfl, -, ha⟩ | ⟨c, form, password, rfl, hp, he, -⟩ :=
      next_cases (sound_after past) event
    · exact ih u (hl ▸ hu)
    · exact ih u (users_accepted ha ▸ hu)
    · rw [Ledger.eq_of_insertUser he] at hu
      rcases List.mem_append.mp hu with hu | hu
      · exact ih u hu
      · rw [List.mem_singleton.mp hu]
        exact ⟨form.password, hp⟩

namespace Gateway

theorem serve_signup {r : Request} (hfill : (Body.read r).fill SignupForm.read = .value form) :
    serve e r s .signup = signup e form s := by
  simp only [serve, withBody_of_fill hfill, hfill, withInput]

theorem status_signup (form : SignupForm) (hcalm : e.circumstances.mishaps = calm) (hn : s.Numbered)
    (hsupply : s.serial + 1 < Uuid.supply) :
    (¬form.Stumbles e.circumstances s.ledger ∧
        (signup e form s).response.status ∈ Endpoint.statuses .signup) ∨
      (form.Stumbles e.circumstances s.ledger ∧ (signup e form s).response.status = 500) := by
  have hresult := signup_calm form hcalm hn.users hsupply
  simp only [signup, Served.only]
  cases hu : s.ledger.userOfEmail? form.email with
  | some u =>
    simp only [hu, Option.isSome_some, ↓reduceIte] at hresult
    rw [hresult]
    have hnot : ¬form.Stumbles e.circumstances s.ledger := by simp [SignupForm.Stumbles, hu]
    exact Or.inl ⟨hnot, (by decide : 409 ∈ Endpoint.statuses .signup)⟩
  | none =>
    simp only [hu, Option.isSome_none, Bool.false_eq_true, ↓reduceIte] at hresult
    by_cases hlong : Password.maxLength < form.password.length
    · have hhash : Password.hash form.password = .error .passwordTooLong := if_pos hlong
      rw [hhash] at hresult
      rw [hresult]
      exact Or.inr ⟨⟨hu, Or.inl hlong⟩, rfl⟩
    · have hhash : Password.hash form.password = .ok (.made form.password) := if_neg hlong
      rw [hhash] at hresult
      change _ = (Operation.tokenFor e.circumstances _).map _ at hresult
      rw [hresult]
      cases ht : Operation.tokenFor e.circumstances
          (Operation.newUser s.nextId form (.made form.password) e.circumstances.now) with
      | error f => exact Or.inr ⟨⟨hu, Or.inr (not_canSign ht)⟩, status_of_tokenFor_error ht⟩
      | ok token =>
        have hcan : e.circumstances.CanSign := exists_tokenFor_iff.mp ⟨token, ht⟩
        have hnot : ¬form.Stumbles e.circumstances s.ledger := by
          simp [SignupForm.Stumbles, hlong, hcan]
        exact Or.inl ⟨hnot, (by decide : 201 ∈ Endpoint.statuses .signup)⟩

theorem status_login (e : Surroundings) (form : LoginForm) (hl : s.ledger.Hashed) :
    (¬form.Stumbles e.circumstances s.ledger ∧
        (login e form s).response.status ∈ Endpoint.statuses .login) ∨
      (form.Stumbles e.circumstances s.ledger ∧ (login e form s).response.status = 500) := by
  simp only [login, Served.only]
  cases hu : s.ledger.userOfEmail? form.email with
  | none =>
    rw [login_unknown hu]
    have hnot : ¬form.Stumbles e.circumstances s.ledger := by simp [LoginForm.Stumbles, hu]
    exact Or.inl ⟨hnot, (by decide : 401 ∈ Endpoint.statuses .login)⟩
  | some u =>
    have htrips : form.Stumbles e.circumstances s.ledger ↔ Password.maxLength < form.password.length ∨
        Password.hash form.password = .ok u.password ∧ u.isActive = true ∧
          ¬e.circumstances.CanSign := by
      simp [LoginForm.Stumbles, hu]
    rw [login_known hl hu, htrips]
    split_ifs with hlong hright
    · exact Or.inr ⟨Or.inl hlong, rfl⟩
    · cases ht : Operation.tokenFor e.circumstances u with
      | error f =>
        exact Or.inr ⟨Or.inr ⟨hright.1, hright.2, not_canSign ht⟩, status_of_tokenFor_error ht⟩
      | ok token =>
        have hcan : e.circumstances.CanSign := exists_tokenFor_iff.mp ⟨token, ht⟩
        exact Or.inl ⟨by simp [hlong, hcan], (by decide : 200 ∈ Endpoint.statuses .login)⟩
    · have hnot : ¬(Password.hash form.password = .ok u.password ∧ u.isActive = true ∧
          ¬e.circumstances.CanSign) := fun h => hright ⟨h.1, h.2.1⟩
      exact Or.inl ⟨by simp only [hlong, hnot, or_self, not_false_eq_true],
        (by decide : 401 ∈ Endpoint.statuses .login)⟩

end Gateway

end SigningIn

/-! ### Requests for accounts -/

namespace Gateway

variable {e : Surroundings} {r : Request} {s : Store} {l l' : Ledger} {p : Endpoint} {a : Action}

theorem status_of_accepted {c : Circumstances} {x : Answer} (h : Asks e r l p a)
    (ha : Accepted c s a x l') : x.status ∈ p.statuses := by
  cases h <;> cases ha <;> simp [Answer.status, Endpoint.statuses]

theorem status_of_refused {now : Instant} {refusal : Refusal} (h : Asks e r l p a)
    (hr : Refused now l' a refusal) : refusal.status ∈ p.statuses := by
  cases hr with
  | unknown named =>
    -- Only calls that name an account can miss one.
    cases h with
    | add | list => cases named
    | verify | promote | delete => simp [Refusal.status, Endpoint.statuses]
  | _ =>
    cases h
    simp [Refusal.status, Endpoint.statuses]

theorem status_account (hcalm : e.circumstances.mishaps = calm) (hs : s.ledger.Sound)
    (hfree : s.ledger.Free s.nextId)
    (hdue : ∃ t, Code.deadline? e.circumstances.settings.codeMinutes e.circumstances.now = some t)
    (h : Asks e r s.ledger p a) : (serve e r s p).response.status ∈ p.statuses := by
  have hadd : ∀ courier owner form given draw, a = .add courier owner form given draw →
      s.ledger.Free s.nextId ∧
        ∃ t, Code.deadline? (given.getD e.circumstances.settings.codeMinutes)
          e.circumstances.now = some t := by
    rintro courier owner form given draw rfl
    cases h with
    | add caller filled => exact ⟨hfree, hdue⟩
  rw [serve_asks h]
  simp only [Served.ofCall]
  rcases perform_calm hs hcalm a hadd with ⟨x, hx⟩ | ⟨refusal, hrefused, hres⟩
  · rw [hx]
    exact status_of_accepted h (perform_accepted hs hx)
  · rw [hres]
    exact status_of_refused h hrefused

/-- In every state that requests reach, a request that brings all it is asked for is answered with one of
the statuses of its endpoint, unless it trips over its password or the token: then the answer is that of an
unforeseen fault. No call to the database fails meanwhile, numbers are left, and the deadline of a code is
within the calendar. -/
theorem admitted_requests_answered (past : List (Surroundings × Request)) (e : Surroundings)
    (r : Request) (p : Endpoint) (hcalm : e.circumstances.mishaps = calm)
    (hsupply : (reached past).serial + 1 < Uuid.supply)
    (hdue : ∃ t, Code.deadline? e.circumstances.settings.codeMinutes e.circumstances.now = some t)
    (hfind : Route.find r.method r.path.toList = .endpoint p)
    (hadmits : Admits e r (reached past).ledger p) :
    (¬Stumbles e r (reached past).ledger p →
      (handle e r (reached past)).response.status ∈ p.statuses) ∧
    (Stumbles e r (reached past).ledger p →
      (handle e r (reached past)).response.status = 500) := by
  obtain ⟨events, hevents⟩ := reached_eq_after past
  have hs : (reached past).ledger.Sound := hevents ▸ sound_after events
  have hn : (reached past).Numbered := hevents ▸ numbered_after events
  have hh : (reached past).ledger.Hashed := hevents ▸ hashed_after events
  rw [status_handle hfind]
  cases hadmits with
  | @signup form filled =>
    rw [serve_signup filled]
    rcases status_signup form hcalm hn hsupply with ⟨hnot, hmem⟩ | ⟨htrips, hfault⟩
    · refine ⟨fun _ => hmem, ?_⟩
      rintro (⟨filled', htrips⟩ | _)
      obtain rfl := Checked.value.inj (filled.symm.trans filled')
      exact absurd htrips hnot
    · exact ⟨fun h => absurd (.signup filled htrips) h, fun _ => hfault⟩
  | @login form filled =>
    rw [serve_login filled]
    rcases status_login e form hh with ⟨hnot, hmem⟩ | ⟨htrips, hfault⟩
    · refine ⟨fun _ => hmem, ?_⟩
      rintro (_ | ⟨filled', htrips⟩)
      obtain rfl := Checked.value.inj (filled.symm.trans filled')
      exact absurd htrips hnot
    · exact ⟨fun h => absurd (.login filled htrips) h, fun _ => hfault⟩
  | account asks =>
    have hmem := status_account hcalm hs (hn.free hsupply) hdue asks
    refine ⟨fun _ => hmem, ?_⟩
    intro hstumbles
    cases hstumbles <;> cases asks

end Gateway

/-! ### Two sign-ups -/

theorem ofText?_example : DomainName.ofText? "example.com" =
    some { shown := "example.com", ascii := "example.com" } := by
  have hvisible : DomainName.isVisible "example.com".toList = true := DomainName.isVisible_ascii (by simp)
  have hcomposed : Text.composed "example.com" = "example.com" := by decide +kernel
  have hlower : Text.lowercase "example.com" = "example.com" := Text.lowercase_of_lower (by simp)
  simp only [DomainName.ofText?, hvisible, hcomposed, hlower]
  decide +kernel

theorem ofText?_john : EmailAddress.ofText? "john@example.com" = some "john@example.com" := by
  have htrim : Text.trim "john@example.com".toList = "john@example.com".toList := by decide
  have hnone : EmailAddress.bracketed? "john@example.com".toList = none := by
    have hquoted : EmailAddress.afterQuotedName? "john@example.com".toList = none := by decide
    have hspan : "john@example.com".toList.span (· != '<') = ("john@example.com".toList, []) := by decide
    simp only [EmailAddress.bracketed?, htrim, hquoted, hspan]
    split <;> rfl
  have haddress : EmailAddress.ofAddress? "john@example.com".toList = some "john@example.com" := by
    have hspan : "john@example.com".toList.span (· != '@') =
        ("john".toList, '@' :: "example.com".toList) := by
      decide
    have hlocal : EmailAddress.localPart? "john".toList = some "john" := by decide +kernel
    simp only [EmailAddress.ofAddress?, hspan, hlocal, String.ofList_toList, ofText?_example]
    decide +kernel
  rw [EmailAddress.ofText?, hnone, Option.getD_none, htrim, haddress]
  decide

theorem Form.text_eq_value {least : Nat} {most : Option Nat} {s : String} (hs : least ≤ s.length)
    (hmost : ∀ n ∈ most, s.length ≤ n) : Form.text least most (.text s) = .value s := by
  cases most with
  | none => simp [Form.text, Form.anyText, Checked.bind, Nat.not_lt.mpr hs]
  | some n => simp [Form.text, Form.anyText, Checked.bind, Nat.not_lt.mpr hs, hmost n rfl]

/-- A form reads back from its own fields if its parts are of the right lengths. -/
theorem SignupForm.fill_toJson {f : SignupForm} {r : Request}
    (hemail : EmailAddress.ofText? f.email = some f.email) (hpassword : 8 ≤ f.password.length)
    (hfirst : 1 ≤ f.firstName.length ∧ f.firstName.length ≤ 100)
    (hlast : 1 ≤ f.lastName.length ∧ f.lastName.length ≤ 100) (hread : Body.read r = .value f.toJson) :
    (Body.read r).fill SignupForm.read = .value f := by
  have hmail : Form.email (.text f.email) = .value f.email := by
    simp only [Form.email, Form.anyText, Checked.bind, hemail]
  rw [hread]
  simp [Body.fill, SignupForm.toJson, Form.record, SignupForm.read, Form.field, Json.Fields.get?,
    List.lookup_cons, hmail, Form.text_eq_value, hfirst, hlast, hpassword]
  rfl

/-- John's form, with a password of his choice. -/
def johnsForm (password : String) : SignupForm :=
  { email := "john@example.com", password, firstName := "John", lastName := "Doe" }

/-- John's request to sign up. -/
def joining (password : String) : Request :=
  { method := "POST", host := "test", path := "/auth/signup", rawQuery := "", headers := [],
    body := Utf8.encode (Json.print .compact (johnsForm password).toJson) }

theorem find_joining (password : String) :
    Route.find (joining password).method (joining password).path.toList = .endpoint .signup := by
  have hfind : Route.find "POST" "/auth/signup".toList = .endpoint .signup := by rfl
  exact hfind

theorem fill_joining {password : String} (h : 8 ≤ password.length) :
    (Body.read (joining password)).fill SignupForm.read = .value (johnsForm password) := by
  have hfaithful : Json.Faithful (johnsForm password).toJson := by
    refine .object _ (by simp) fun f hf => ?_
    simp only [List.mem_cons, List.not_mem_nil, or_false] at hf
    rcases hf with rfl | rfl | rfl | rfl <;> exact .text _
  have hbody : (joining password).body =
      Utf8.encode (Json.print .compact (johnsForm password).toJson) := by
    simp only [joining]
  have htype : ((joining password).header? "content-type").getD "" = "" := rfl
  have hread : Body.read (joining password) = .value (johnsForm password).toJson :=
    Body.read_print Json.Style.blank_compact hfaithful htype hbody
  have hfirst : 1 ≤ "John".length ∧ "John".length ≤ 100 := by decide
  have hlast : 1 ≤ "Doe".length ∧ "Doe".length ≤ 100 := by decide
  exact SignupForm.fill_toJson (f := johnsForm password) ofText?_john h hfirst hlast hread

/-- A service that can sign, with nothing going wrong. -/
def ready : Surroundings := { quiet with circumstances := keyed "abc" }

theorem canSign_ready : ready.circumstances.CanSign where
  ends := ⟨_, rfl⟩
  algorithm := ⟨_, rfl⟩
  secret := readAs_abc.usable

namespace Gateway

theorem supply_empty : (reached []).serial + 1 < Uuid.supply := by
  decide +kernel

/-- A usual password signs John up, and one that nobody can have chosen is answered as a fault. -/
theorem johns_requests_answered :
    (handle ready (joining "SecurePass123!") (reached [])).response.status ∈ Endpoint.statuses .signup ∧
      (handle ready (joining endless.password) (reached [])).response.status = 500 := by
  have hfill := fill_joining (by decide : 8 ≤ "SecurePass123!".length)
  have hlong := fill_joining (Nat.le_of_lt (Nat.lt_trans (by decide) length_endless))
  obtain ⟨hanswered, -⟩ := admitted_requests_answered [] ready (joining "SecurePass123!") .signup rfl
    supply_empty ⟨_, rfl⟩ (find_joining _) (.signup hfill)
  obtain ⟨-, hfault⟩ := admitted_requests_answered [] ready (joining endless.password) .signup rfl
    supply_empty ⟨_, rfl⟩ (find_joining _) (.signup hlong)
  constructor
  · refine hanswered ?_
    rintro (⟨hfill', -, hcause⟩ | _)
    obtain rfl := Checked.value.inj (hfill.symm.trans hfill')
    rcases hcause with h | h
    · exact absurd h (by decide)
    · exact h canSign_ready
  · exact hfault (.signup hlong ⟨rfl, Or.inl length_endless⟩)

/-- Not every request that fills in its form gets an answer that its endpoint is there to give: a password
has no upper limit in the form, but one where it is hashed. -/
theorem long_password_faults : ¬∀ (past : List (Surroundings × Request)) (e : Surroundings) (r : Request)
    (p : Endpoint), e.circumstances.mishaps = calm → (reached past).serial + 1 < Uuid.supply →
      e.circumstances.CanSign →
      (∃ t, Code.deadline? e.circumstances.settings.codeMinutes e.circumstances.now = some t) →
      Route.find r.method r.path.toList = .endpoint p → Admits e r (reached past).ledger p →
      (handle e r (reached past)).response.status ∈ p.statuses := by
  intro h
  have hlong := fill_joining (Nat.le_of_lt (Nat.lt_trans (by decide) length_endless))
  have hmem := h [] ready (joining endless.password) .signup rfl supply_empty canSign_ready ⟨_, rfl⟩
    (find_joining _) (.signup hlong)
  rw [status_handle (find_joining _), serve_signup hlong] at hmem
  rcases status_signup (e := ready) (johnsForm endless.password) rfl (numbered_after [])
    supply_empty with ⟨hnot, -⟩ | ⟨-, hfault⟩
  · exact hnot ⟨rfl, Or.inl length_endless⟩
  · rw [show reached [] = after [] from rfl, hfault] at hmem
    exact absurd hmem (by decide)

end Gateway

end PayoutRegistry
