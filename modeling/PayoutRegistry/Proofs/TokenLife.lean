import PayoutRegistry.Proofs.Authentication
import PayoutRegistry.Proofs.History
import PayoutRegistry.Proofs.Instants

/-!
The life of a token. It is given away when somebody signs up or in, stands for one user while it lasts, and
comes to stand for nobody else, whoever signs up, signs in or is switched off in the meantime.
-/
namespace PayoutRegistry

/-- Something that happens to users: somebody signs up, somebody signs in, or a user is switched on or off. -/
inductive Access where
  | signup (circumstances : Circumstances) (form : SignupForm)
  | login (circumstances : Circumstances) (form : LoginForm)
  | activate (id : Uuid) (isActive : Bool) (now : Instant)

/-- A token that was given away, and the user it was given to. -/
structure Grant where
  circumstances : Circumstances
  user : User
  token : String

/-- The store with a user switched on or off. -/
def Store.activate (s : Store) (id : Uuid) (isActive : Bool) (now : Instant) : Store :=
  match s.ledger.user? id with
  | none => s
  | some u => match s.ledger.execute (.updateUser { u with isActive, updatedAt := now }) with
    | .ok ledger => { s with ledger }
    | .error _ => s

namespace Access

def next (s : Store) : Access → Store
  | .signup c form => ((Operation.signup c form s).commit c.mishaps 1).2
  | .login .. => s
  | .activate id isActive now => s.activate id isActive now

/-- The token that is given away, whether or not the work is then committed. -/
def grant? (s : Store) : Access → Option Grant
  | .signup c form => (Operation.signup c form s).result.toOption.map fun x =>
    { circumstances := c, user := x.user, token := x.token }
  | .login c form => (Operation.login c form s.ledger).toOption.map fun x =>
    { circumstances := c, user := x.user, token := x.token }
  | .activate .. => none

end Access

namespace Store

/-- The store after a run, which has its latest access first. -/
def following (s : Store) : List Access → Store
  | [] => s
  | a :: past => a.next (s.following past)

/-- The tokens that were given away in a run. -/
def grants (s : Store) : List Access → List Grant
  | [] => []
  | a :: past => (a.grant? (s.following past)).toList ++ s.grants past

end Store

variable {c : Circumstances} {s : Store} {l l' : Ledger} {u v : User} {id : Uuid} {token : String}
  {g : Grant} {run : List Access}

/-! ### When a token ends -/

theorem tokenFor_eq_ok : Operation.tokenFor c u = .ok token ↔
    ∃ last, c.now.add? (c.settings.tokenMinutes * microsPerMinute) = some last ∧
      Token.sign c.settings.secretKey c.settings.algorithm (Token.ownClaims u.id last.unixSeconds) =
        .ok token := by
  have hclaims (last : Int) : Json.Fields.set [("sub", .text u.id.text)] "exp" (.int last) =
      Token.ownClaims u.id last := by
    simp [Json.Fields.set, Token.ownClaims]
  simp only [Operation.tokenFor, Token.create_eq_ok, Token.lifetime, hclaims]

/-- What a token made for a user comes to, at any time and with any ledger. -/
theorem currentUser_of_tokenFor {c₀ : Circumstances}
    (halone : Token.candidates c₀.settings.secretKey = [some c₀.settings.secretKey])
    (h : Operation.tokenFor c₀ u = .ok token)
    (hkey : c.settings.secretKey = c₀.settings.secretKey)
    (halg : c.settings.algorithm = c₀.settings.algorithm) (l : Ledger) :
    Operation.currentUser c token l = match l.user? u.id with
      | some found =>
        if found.isActive = true ∧
          c.now.unixSeconds ≤ c₀.now.unixSeconds + 60 * c₀.settings.tokenMinutes then .ok found
        else .error .unauthenticated
      | none => .error .unauthenticated := by
  obtain ⟨last, hlast, hsign⟩ := tokenFor_eq_ok.mp h
  obtain ⟨-, -, husable, -⟩ := Token.sign_eq_ok.mp hsign
  have hread : Token.ReadAs c.settings.secretKey c₀.settings.secretKey := by
    rw [hkey]
    exact ⟨halone, husable⟩
  rw [← halg] at hsign
  rw [← Instant.unixSeconds_add hlast]
  exact currentUser_of_sign hread last.length_digits_unixSeconds hsign l

/-! ### Who tokens are given to -/

theorem tokenFor_of_signup {form : SignupForm} {x : SignedIn}
    (h : (Operation.signup c form s).result = .ok x) : Operation.tokenFor c x.user = .ok x.token := by
  simp only [Operation.signup] at h
  split at h
  · cases h
  · split at h
    · cases h
    · simp only [Pending.andThen] at h
      obtain ⟨-, -, h⟩ := Token.bind_eq_ok.mp h
      obtain ⟨token, htoken, rfl⟩ := map_eq_ok.mp h
      exact htoken

theorem tokenFor_of_login {form : LoginForm} {x : SignedIn} (h : Operation.login c form l = .ok x) :
    Operation.tokenFor c x.user = .ok x.token := by
  simp only [Operation.login] at h
  cases hu : l.userOfEmail? form.email with
  | none =>
    rw [hu] at h
    cases h
  | some u =>
    simp only [hu] at h
    obtain ⟨fits, -, h⟩ := Token.bind_eq_ok.mp h
    split_ifs at h
    · cases h
    · cases h
    · cases h
    · obtain ⟨token, htoken, h⟩ := Token.bind_eq_ok.mp h
      cases h
      exact htoken

theorem toOption_eq_some {α : Type} {x : Except Failure α} {a : α} : x.toOption = some a ↔ x = .ok a := by
  cases x <;> simp [Except.toOption]

theorem tokenFor_of_grant {a : Access} (h : a.grant? s = some g) :
    Operation.tokenFor g.circumstances g.user = .ok g.token := by
  cases a with
  | signup c form =>
    obtain ⟨x, hx, rfl⟩ := Option.map_eq_some_iff.mp h
    exact tokenFor_of_signup (toOption_eq_some.mp hx)
  | login c form =>
    obtain ⟨x, hx, rfl⟩ := Option.map_eq_some_iff.mp h
    exact tokenFor_of_login (toOption_eq_some.mp hx)
  | activate id isActive now => cases h

theorem tokenFor_of_mem_grants (h : g ∈ s.grants run) :
    Operation.tokenFor g.circumstances g.user = .ok g.token := by
  induction run with
  | nil => cases h
  | cons a past ih =>
    rcases List.mem_append.mp h with h | h
    · exact tokenFor_of_grant (Option.mem_toList.mp h)
    · exact ih h

/-! ### Users stay who they are -/

/-- The same user, who may have been switched on or off. -/
def User.Continues (u v : User) : Prop := v = { u with isActive := v.isActive, updatedAt := v.updatedAt }

theorem User.Continues.trans {w : User} (h : u.Continues v) (h' : v.Continues w) : u.Continues w := by
  rw [Continues] at h h' ⊢
  rw [h] at h'
  exact h'

/-- Every user is still there. -/
def Ledger.Keeps (l l' : Ledger) : Prop :=
  ∀ id u, l.user? id = some u → ∃ v, l'.user? id = some v ∧ u.Continues v

theorem Ledger.Keeps.refl (l : Ledger) : l.Keeps l := by
  intro id u hu
  exact ⟨u, hu, rfl⟩

theorem Ledger.Keeps.trans {l'' : Ledger} (h : l.Keeps l') (h' : l'.Keeps l'') : l.Keeps l'' := by
  intro id u hu
  obtain ⟨v, hv, huv⟩ := h id u hu
  obtain ⟨w, hw, hvw⟩ := h' id v hv
  exact ⟨w, hw, huv.trans hvw⟩

theorem keeps_insertUser (h : l.execute (.insertUser u) = .ok l') : l.Keeps l' := by
  obtain rfl := Ledger.eq_of_insertUser h
  intro id v hv
  refine ⟨v, ?_, rfl⟩
  simp only [Ledger.user?, List.find?_append] at hv ⊢
  rw [hv, Option.some_or]

theorem user?_id (h : l.user? id = some u) : u.id = id := by
  simpa using List.find?_some h

/-- A row that is written over another is found in its place. -/
theorem user?_overwritten (l : Ledger) (u : User) (id : Uuid) :
    ({ l with users := l.users.map fun v => if v.id = u.id then u else v } : Ledger).user? id =
      (l.user? id).map fun v => if v.id = u.id then u else v := by
  have hid (v : User) : (if v.id = u.id then u else v).id = v.id := by
    split_ifs with heq
    · exact heq.symm
    · rfl
  simp only [Ledger.user?, List.find?_map, Function.comp_def, hid]

theorem keeps_updateUser {isActive : Bool} {now : Instant} (hu : l.user? id = some u)
    (h : l.execute (.updateUser { u with isActive, updatedAt := now }) = .ok l') : l.Keeps l' := by
  simp only [Ledger.execute] at h
  split_ifs at h
  cases h
  intro other v hv
  have hfound := user?_overwritten l { u with isActive, updatedAt := now } other
  rw [hv, Option.map_some] at hfound
  refine ⟨_, hfound, ?_⟩
  split_ifs with heq
  · -- The row that is written over is the one that was looked up.
    have hsame : id = other := by rw [← user?_id hu, ← user?_id hv, heq]
    rw [hsame, hv] at hu
    cases hu
    rfl
  · rfl

theorem keeps_activate (s : Store) (id : Uuid) (isActive : Bool) (now : Instant) :
    s.ledger.Keeps (s.activate id isActive now).ledger := by
  simp only [Store.activate]
  split
  · exact .refl _
  · rename_i u hu
    split
    · rename_i l' h
      exact keeps_updateUser hu h
    · exact .refl _

theorem keeps_signup {form : SignupForm} :
    s.ledger.Keeps ((Operation.signup c form s).commit c.mishaps 1).2.ledger := by
  obtain h | ⟨_, -, h, -⟩ := signup_ledger c form s
  · rw [h]
    exact .refl _
  · exact keeps_insertUser h

theorem keeps_next (s : Store) (a : Access) : s.ledger.Keeps (a.next s).ledger := by
  cases a with
  | signup c form => exact keeps_signup
  | login c form => exact .refl _
  | activate id isActive now => exact keeps_activate s id isActive now

theorem keeps_following (s : Store) (run later : List Access) :
    (s.following run).ledger.Keeps (s.following (later ++ run)).ledger := by
  induction later with
  | nil => exact .refl _
  | cons a later ih => exact ih.trans (keeps_next _ a)

/-- Where the secret is read as itself, a token that was given away stands for its user exactly as long as that
user is there and active and its last second is not over; in every other case it is refused in one way. It
stands for nobody else. A user who is there after the run is the same one after any later accesses. -/
theorem granted_tokens_stand_for_their_users (s : Store) (run : List Access) (g : Grant)
    (hg : g ∈ s.grants run)
    (halone : Token.candidates g.circumstances.settings.secretKey =
      [some g.circumstances.settings.secretKey]) :
    (∀ (c : Circumstances) (l : Ledger),
      c.settings.secretKey = g.circumstances.settings.secretKey →
      c.settings.algorithm = g.circumstances.settings.algorithm →
        (Operation.currentUser c g.token l = match l.user? g.user.id with
          | some u =>
            if u.isActive = true ∧ c.now.unixSeconds ≤
              g.circumstances.now.unixSeconds + 60 * g.circumstances.settings.tokenMinutes then .ok u
            else .error .unauthenticated
          | none => .error .unauthenticated) ∧
        ∀ u, Operation.currentUser c g.token l = .ok u → u.id = g.user.id) ∧
    ∀ (later : List Access) (u : User), (s.following run).ledger.user? g.user.id = some u →
      ∃ v, (s.following (later ++ run)).ledger.user? g.user.id = some v ∧ u.Continues v := by
  refine ⟨?_, ?_⟩
  · intro c l hkey halg
    have hanswer := currentUser_of_tokenFor halone (tokenFor_of_mem_grants hg) hkey halg l
    refine ⟨hanswer, ?_⟩
    intro u hu
    rw [hanswer] at hu
    split at hu
    · rename_i found hfound
      split_ifs at hu
      cases hu
      exact user?_id hfound
    · cases hu
  · intro later u hu
    exact keeps_following s run later g.user.id u hu

theorem tokenFor_keyed {key : String} (h : '-' ∉ key.toList) :
    Operation.tokenFor (keyed key) (john "chosen" true) = .ok (pass key) := by
  have hminutes : (keyed key).settings.tokenMinutes * microsPerMinute = 0 := Int.zero_mul _
  refine tokenFor_eq_ok.mpr ⟨(keyed key).now, by rw [hminutes, Instant.add?_zero], ?_⟩
  rw [now_keyed]
  exact sign_pass h

/-- The sign-in by which John gets his token. -/
def signsIn (key : String) : List Access :=
  [.login (keyed key) { email := "john@example.com", password := "chosen" }]

theorem mem_grants_signsIn (key : String) (h : '-' ∉ key.toList) :
    Grant.mk (keyed key) (john "chosen" true) (pass key) ∈
      (storeOf (john "chosen" true)).grants (signsIn key) := by
  have hlogin : Operation.login (keyed key) { email := "john@example.com", password := "chosen" }
      (storeOf (john "chosen" true)).ledger = .ok { user := john "chosen" true, token := pass key } := by
    rw [login_known (hashed_storeOf true) (u := john "chosen" true) rfl, if_neg (by decide),
      if_pos (by decide), tokenFor_keyed h]
    rfl
  simp only [Store.grants, signsIn, Access.grant?, Store.following, hlogin, List.append_nil]
  exact List.mem_singleton_self _

/-- The same circumstances in the next second. -/
def inNextSecond (secret : String) : Circumstances :=
  { keyed secret with now := { micros := Instant.epochMicros + microsPerSecond, micros_lt := by decide } }

theorem now_inNextSecond (secret : String) : (inNextSecond secret).now.unixSeconds = 1 := by
  simp [inNextSecond, Instant.unixSeconds, microsPerSecond]

/-- John's token stands for him in its last second, but not in the next one, nor once he is switched off. -/
theorem johns_token_ends : ∃ g ∈ (storeOf (john "chosen" true)).grants (signsIn "abc"),
    Operation.currentUser (keyed "abc") g.token (storeOf (john "chosen" true)).ledger =
      .ok (john "chosen" true) ∧
    Operation.currentUser (inNextSecond "abc") g.token (storeOf (john "chosen" true)).ledger =
      .error .unauthenticated ∧
    Operation.currentUser (keyed "abc") g.token (storeOf (john "chosen" false)).ledger =
      .error .unauthenticated := by
  have hg := mem_grants_signsIn "abc" (by decide)
  obtain ⟨hanswer, -⟩ := granted_tokens_stand_for_their_users _ _ _ hg readAs_abc.alone
  have hend : (keyed "abc").now.unixSeconds + 60 * (keyed "abc").settings.tokenMinutes = 0 := by
    rw [now_keyed]
    rfl
  refine ⟨_, hg, ?_, ?_, ?_⟩
  · rw [(hanswer (keyed "abc") _ rfl rfl).1, user?_storeOf, hend, now_keyed]
    rfl
  · rw [(hanswer (inNextSecond "abc") _ rfl rfl).1, user?_storeOf, hend, now_inNextSecond]
    rfl
  · rw [(hanswer (keyed "abc") _ rfl rfl).1]
    rfl

/-- A secret in quotation marks is read as the text between them, and so no token that was given away is taken
back. -/
theorem quoted_secret_refuses_own_tokens : ¬∀ (s : Store) (run : List Access) (g : Grant),
    g ∈ s.grants run → s.ledger.user? g.user.id = some g.user → g.user.isActive = true →
      0 ≤ g.circumstances.settings.tokenMinutes →
        Operation.currentUser g.circumstances g.token s.ledger = .ok g.user := by
  intro h
  have hg := mem_grants_signsIn "\"abc\"" (by decide)
  have htaken := h _ _ _ hg (user?_storeOf _) rfl le_rfl
  have hunsigned : ¬Token.Signed .sha256 "abc" (pass "\"abc\"") := by
    rw [pass, Token.signed_append (Base64Url.point_not_mem_encode _), Base64Url.decode?_encode]
    exact fun hmac => mac_quoted_ne (Option.some.inj hmac).symm
  rw [currentUser_unsigned (c := keyed "\"abc\"") readAs_quoted rfl hunsigned] at htaken
  cases htaken

end PayoutRegistry
