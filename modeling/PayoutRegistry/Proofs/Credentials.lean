import PayoutRegistry.Proofs.Statuses

/-!
Mail addresses and passwords. What has happened to users since there were none tells who may sign up, and who
may sign in: an address is taken once somebody has signed up with it, and its password is the one that was
chosen then. Nobody else has a say in it.
-/
namespace PayoutRegistry

/-- What an access makes of the row of a user who is there. -/
def Access.revise : Access → User → User
  | .activate id isActive now, u => if u.id = id then { u with isActive, updatedAt := now } else u
  | _, u => u

/-- An access of a run by which somebody signed up. -/
structure Enrolment (run : List Access) where
  later : List Access
  circumstances : Circumstances
  form : SignupForm
  earlier : List Access
  signedIn : SignedIn
  split : run = later ++ .signup circumstances form :: earlier
  enrolled : (Operation.enrol circumstances form (Store.empty.following earlier)).1 = .ok signedIn

namespace Enrolment

variable {run : List Access}

/-- The user as the rest of the run has left them. -/
def user (e : Enrolment run) : User := e.later.foldr Access.revise e.signedIn.user

/-- The same sign-up in a longer run. -/
def before (e : Enrolment run) (a : Access) : Enrolment (a :: run) :=
  { e with later := a :: e.later, split := congrArg (a :: ·) e.split }

/-- The sign-up that a run ends in. -/
def last {c : Circumstances} {form : SignupForm} {x : SignedIn}
    (h : (Operation.enrol c form (Store.empty.following run)).1 = .ok x) :
    Enrolment (.signup c form :: run) :=
  { later := [], circumstances := c, form, earlier := run, signedIn := x, split := rfl, enrolled := h }

end Enrolment

/-- No two users have an identifier or a mail address in common. -/
def Ledger.Distinct (l : Ledger) : Prop :=
  l.users.Pairwise fun u v => u.id ≠ v.id ∧ u.email ≠ v.email

variable {c : Circumstances} {s : Store} {l l' : Ledger} {u v : User} {id : Uuid} {email : String}
  {a : Access} {run : List Access}

namespace User.Continues

theorem id_eq (h : u.Continues v) : v.id = u.id := by
  rw [Continues] at h
  rw [h]

theorem email_eq (h : u.Continues v) : v.email = u.email := by
  rw [Continues] at h
  rw [h]

theorem password_eq (h : u.Continues v) : v.password = u.password := by
  rw [Continues] at h
  rw [h]

end User.Continues

/-- What a sign-up that goes well comes to. -/
theorem enrol_eq_ok {form : SignupForm} {x : SignedIn} (h : (Operation.enrol c form s).1 = .ok x) :
    s.ledger.userOfEmail? form.email = none ∧ Operation.tokenFor c x.user = .ok x.token ∧
      (∃ password, Password.hash form.password = .ok password ∧
        x.user = Operation.newUser s.nextId form password c.now) ∧
      s.ledger.execute (.insertUser x.user) = .ok (Operation.enrol c form s).2.ledger ∧
      (Operation.enrol c form s).2.serial = s.serial + 1 := by
  obtain ⟨⟨f, hf⟩, -⟩ | ⟨password, token, hnew, hp, hx, htoken, he, hserial⟩ := enrol_cases c form s
  · cases hf.symm.trans h
  · obtain rfl := Except.ok.inj (hx.symm.trans h)
    exact ⟨hnew, htoken, ⟨password, hp, rfl⟩, he, hserial⟩

/-! ### Users are told apart -/

instance : Std.Symm fun u v : User => u.id ≠ v.id ∧ u.email ≠ v.email where
  symm _ _ h := ⟨h.1.symm, h.2.symm⟩

namespace Ledger.Distinct

theorem apart (h : l.Distinct) (hu : u ∈ l.users) (hv : v ∈ l.users) (hne : u ≠ v) :
    u.id ≠ v.id ∧ u.email ≠ v.email :=
  List.Pairwise.forall h hu hv hne

/-- A user is found by whatever tells them apart. -/
theorem find?_eq_some (h : l.Distinct) {p : User → Bool}
    (hp : ∀ u v : User, p u = true → p v = true → ¬(u.id ≠ v.id ∧ u.email ≠ v.email)) :
    l.users.find? p = some u ↔ u ∈ l.users ∧ p u = true := by
  constructor
  · intro hu
    exact ⟨List.mem_of_find?_eq_some hu, List.find?_some hu⟩
  · rintro ⟨hu, hpu⟩
    obtain ⟨v, hv⟩ := Option.isSome_iff_exists.mp (List.find?_isSome.mpr ⟨u, hu, hpu⟩)
    rw [hv]
    by_contra hne
    exact hp v u (List.find?_some hv) hpu
      (h.apart (List.mem_of_find?_eq_some hv) hu fun he => hne (congrArg some he))

theorem user?_eq_some (h : l.Distinct) : l.user? id = some u ↔ u ∈ l.users ∧ u.id = id := by
  refine (h.find?_eq_some ?_).trans (by simp)
  simp +contextual

theorem userOfEmail?_eq_some (h : l.Distinct) :
    l.userOfEmail? email = some u ↔ u ∈ l.users ∧ u.email = email := by
  refine (h.find?_eq_some ?_).trans (by simp)
  simp +contextual

theorem insertUser (h : l.Distinct) (he : l.execute (.insertUser u) = .ok l') : l'.Distinct := by
  have hl := Ledger.eq_of_insertUser he
  simp only [Ledger.execute] at he
  split_ifs at he with hfits
  rw [hl]
  refine List.pairwise_append.mpr ⟨h, List.pairwise_singleton .., ?_⟩
  intro v hv w hw
  rw [List.mem_singleton.mp hw]
  have hapart : u.id ≠ v.id ∧ u.email ≠ v.email := by simpa using List.all_eq_true.mp hfits v hv
  exact ⟨hapart.1.symm, hapart.2.symm⟩

/-- A user may be switched on or off without getting in the way of another. -/
theorem execute_updateUser (h : l.Distinct) (hu : l.user? id = some u) (isActive : Bool)
    (now : Instant) : l.execute (.updateUser { u with isActive, updatedAt := now }) =
      .ok { l with users := l.users.map (Access.activate id isActive now).revise } := by
  obtain ⟨hmem, rfl⟩ := h.user?_eq_some.mp hu
  have hfits : Ledger.fitsUser { u with isActive, updatedAt := now }
      (l.users.filter (·.id ≠ u.id)) = true := by
    refine List.all_eq_true.mpr fun v hv => ?_
    obtain ⟨hv, hid⟩ := List.mem_filter.mp hv
    have hne : u ≠ v := fun he => by simp [he] at hid
    simpa using h.apart hmem hv hne
  refine (if_pos hfits).trans (congrArg (fun users => Except.ok { l with users }) ?_)
  refine List.map_congr_left fun v hv => ?_
  simp only [Access.revise]
  split_ifs with hid
  · rw [h.user?_eq_some.mpr ⟨hv, hid⟩] at hu
    cases hu
    rfl
  · rfl

end Ledger.Distinct

/-- Switching a user writes over the row of that user, if there is one. -/
theorem users_activate (h : s.ledger.Distinct) (id : Uuid) (isActive : Bool) (now : Instant) :
    (s.activate id isActive now).ledger.users =
      s.ledger.users.map (Access.activate id isActive now).revise := by
  simp only [Store.activate]
  cases hu : s.ledger.user? id with
  | none =>
    have hothers : ∀ v ∈ s.ledger.users, (Access.activate id isActive now).revise v = v := by
      intro v hv
      exact if_neg (by simpa using List.find?_eq_none.mp hu v hv)
    simp only [List.map_congr_left hothers, List.map_id']
  | some u => simp only [h.execute_updateUser hu]

/-! ### One access -/

namespace Access

theorem continues_revise (a : Access) (u : User) : u.Continues (a.revise u) := by
  cases a with
  | activate id isActive now =>
    simp only [revise]
    split_ifs <;> rfl
  | _ => rfl

theorem next_signup (s : Store) (c : Circumstances) (form : SignupForm) :
    next s (.signup c form) = (Operation.enrol c form s).2 := rfl

/-- The users after an access: those from before, and whoever signs up by it. -/
theorem mem_next (h : s.ledger.Distinct) : v ∈ (a.next s).ledger.users ↔
    (∃ u ∈ s.ledger.users, a.revise u = v) ∨
      ∃ c form x, a = .signup c form ∧ (Operation.enrol c form s).1 = .ok x ∧ x.user = v := by
  cases a with
  | signup c form =>
    rw [next_signup]
    obtain ⟨⟨f, hf⟩, hl⟩ | ⟨password, token, -, -, hx, -, he, -⟩ := enrol_cases c form s
    · simp [hl, hf, revise]
    · rw [Ledger.eq_of_insertUser he]
      simp [hx, revise, eq_comm]
  | login c form => simp [next, revise]
  | activate id isActive now => simp [next, users_activate h]

theorem distinct_next (h : s.ledger.Distinct) (a : Access) : (a.next s).ledger.Distinct := by
  cases a with
  | signup c form =>
    rw [next_signup]
    obtain ⟨-, hl⟩ | ⟨password, token, -, -, -, -, he, -⟩ := enrol_cases c form s
    · rw [hl]
      exact h
    · exact h.insertUser he
  | login c form => exact h
  | activate id isActive now =>
    rw [Ledger.Distinct, next, users_activate h, List.pairwise_map]
    refine h.imp fun {u v} huv => ?_
    rw [(continues_revise _ u).id_eq, (continues_revise _ v).id_eq,
      (continues_revise _ u).email_eq, (continues_revise _ v).email_eq]
    exact huv

theorem serial_le_next (s : Store) (a : Access) : s.serial ≤ (a.next s).serial := by
  cases a with
  | signup c form => exact serial_signup c form s
  | login c form => exact Nat.le_refl _
  | activate id isActive now =>
    simp only [next, Store.activate]
    split
    · exact Nat.le_refl _
    · split <;> exact Nat.le_refl _

theorem given_next (h : s.ledger.Distinct) (hgiven : ∀ u ∈ s.ledger.users, s.Given u.id) (a : Access) :
    ∀ v ∈ (a.next s).ledger.users, (a.next s).Given v.id := by
  intro v hv
  rcases (mem_next h).mp hv with ⟨u, hu, rfl⟩ | ⟨c, form, x, rfl, hx, rfl⟩
  · rw [(continues_revise a u).id_eq]
    exact (hgiven u hu).mono (serial_le_next s a)
  · obtain ⟨-, -, ⟨password, -, hnew⟩, -, hserial⟩ := enrol_eq_ok hx
    exact ⟨s.serial + 1, Nat.le_of_eq hserial.symm, congrArg User.id hnew⟩

end Access

/-! ### Runs -/

theorem distinct_following (run : List Access) : (Store.empty.following run).ledger.Distinct := by
  induction run with
  | nil => exact .nil
  | cons a past ih => exact Access.distinct_next ih a

theorem given_following (run : List Access) : ∀ u ∈ (Store.empty.following run).ledger.users,
    (Store.empty.following run).Given u.id := by
  induction run with
  | nil => exact nofun
  | cons a past ih => exact Access.given_next (distinct_following past) ih a

/-- The users after a run are those who signed up in it. -/
theorem mem_following : u ∈ (Store.empty.following run).ledger.users ↔ ∃ e : Enrolment run, e.user = u := by
  induction run generalizing u with
  | nil =>
    constructor
    · exact nofun
    · rintro ⟨e, -⟩
      have hnil := e.split
      simp at hnil
  | cons a past ih =>
    rw [Store.following, Access.mem_next (distinct_following past)]
    constructor
    · rintro (⟨v, hv, rfl⟩ | ⟨c, form, x, rfl, hx, rfl⟩)
      · obtain ⟨e, rfl⟩ := ih.mp hv
        exact ⟨e.before a, rfl⟩
      · exact ⟨.last hx, rfl⟩
    · rintro ⟨⟨later, c, form, earlier, x, hsplit, hx⟩, rfl⟩
      cases later with
      | nil =>
        obtain ⟨rfl, rfl⟩ := List.cons.inj hsplit
        exact Or.inr ⟨c, form, x, rfl, hx, rfl⟩
      | cons b later =>
        obtain ⟨rfl, hpast⟩ := List.cons.inj hsplit
        exact Or.inl ⟨_, ih.mpr ⟨⟨later, c, form, earlier, x, hpast, hx⟩, rfl⟩, rfl⟩

namespace Enrolment

theorem continues (e : Enrolment run) : e.signedIn.user.Continues e.user := by
  have hfold (later : List Access) (u : User) : u.Continues (later.foldr Access.revise u) := by
    induction later with
    | nil => rfl
    | cons a later ih => exact ih.trans (a.continues_revise _)
  exact hfold e.later e.signedIn.user

theorem hash_eq (e : Enrolment run) : Password.hash e.form.password = .ok e.user.password := by
  obtain ⟨-, -, ⟨password, hp, hx⟩, -⟩ := enrol_eq_ok e.enrolled
  rw [e.continues.password_eq, hx]
  exact hp

theorem email_eq (e : Enrolment run) : e.user.email = e.form.email := by
  obtain ⟨-, -, ⟨password, -, hx⟩, -⟩ := enrol_eq_ok e.enrolled
  rw [e.continues.email_eq, hx]
  rfl

theorem isActive_signedIn (e : Enrolment run) : e.signedIn.user.isActive = true := by
  obtain ⟨-, -, ⟨password, -, hx⟩, -⟩ := enrol_eq_ok e.enrolled
  rw [hx]
  rfl

end Enrolment

/-- The sign-up with a mail address is the only one, and its user is found by the address. -/
theorem userOfEmail?_following : (Store.empty.following run).ledger.userOfEmail? email = some u ↔
    ∃ e : Enrolment run, e.form.email = email ∧ e.user = u := by
  rw [(distinct_following run).userOfEmail?_eq_some, mem_following]
  constructor
  · rintro ⟨⟨e, rfl⟩, hemail⟩
    exact ⟨e, e.email_eq.symm.trans hemail, rfl⟩
  · rintro ⟨e, hemail, rfl⟩
    exact ⟨⟨e, rfl⟩, e.email_eq.trans hemail⟩

theorem userOfEmail?_following_eq_none : (Store.empty.following run).ledger.userOfEmail? email = none ↔
    ∀ e : Enrolment run, e.form.email ≠ email := by
  rw [Option.eq_none_iff_forall_ne_some]
  simp only [ne_eq, userOfEmail?_following]
  grind

theorem hashed_following (run : List Access) : (Store.empty.following run).ledger.Hashed := by
  intro u hu
  obtain ⟨e, rfl⟩ := mem_following.mp hu
  exact ⟨e.form.password, e.hash_eq⟩

/-! ### Signing up -/

theorem enrol_taken {form : SignupForm} (h : s.ledger.userOfEmail? form.email = some u) :
    Operation.enrol c form s = (.error (.refusal (.duplicateEmail form.email)), s) := by
  simp only [Operation.enrol, Operation.signup, h]
  rfl

/-- With an address that nobody has, a password that can be hashed and a token that can be made, signing up
goes well. -/
theorem exists_enrol_iff {form : SignupForm} (hcalm : c.mishaps = calm)
    (hgiven : ∀ u ∈ s.ledger.users, s.Given u.id) (hsupply : s.serial + 1 < Uuid.supply) :
    (∃ x, (Operation.enrol c form s).1 = .ok x) ↔ s.ledger.userOfEmail? form.email = none ∧
      form.password.length ≤ Password.maxLength ∧ c.CanSign := by
  constructor
  · rintro ⟨x, hx⟩
    obtain ⟨hnew, htoken, ⟨password, hp, -⟩, -⟩ := enrol_eq_ok hx
    exact ⟨hnew, (Password.hash_eq_ok.mp hp).1, exists_tokenFor_iff.mp ⟨x.token, htoken⟩⟩
  · rintro ⟨hnew, hshort, hsign⟩
    have hp : Password.hash form.password = .ok (.made form.password) :=
      Password.hash_eq_ok.mpr ⟨hshort, rfl⟩
    obtain ⟨token, htoken⟩ : ∃ token, Operation.tokenFor c
        (Operation.newUser s.nextId form (.made form.password) c.now) = .ok token :=
      exists_tokenFor_iff.mpr hsign
    have hresult := signup_calm form hcalm hgiven hsupply
    simp only [hnew, hp, htoken, Option.isSome_none, Bool.false_eq_true, ↓reduceIte, Except.bind,
      Except.map] at hresult
    simp only [Operation.enrol, Pending.commit, Pending.committed, hresult, hcalm, calm]
    exact ⟨_, rfl⟩

/-! ### Signing in -/

/-- Signing in looks at one user alone. -/
theorem login_congr {form : LoginForm} (h : l.userOfEmail? form.email = l'.userOfEmail? form.email) :
    Operation.login c form l = Operation.login c form l' := by
  simp only [Operation.login, h]

theorem login_eq_ok {form : LoginForm} {x : SignedIn} (hl : l.Hashed) :
    Operation.login c form l = .ok x ↔ l.userOfEmail? form.email = some x.user ∧
      Password.hash form.password = .ok x.user.password ∧ x.user.isActive = true ∧
      Operation.tokenFor c x.user = .ok x.token := by
  cases hu : l.userOfEmail? form.email with
  | none => simp [login_unknown hu]
  | some u =>
    rw [login_known hl hu]
    split_ifs with hlong hright
    · refine ⟨nofun, ?_⟩
      rintro ⟨-, hp, -⟩
      exact absurd (Password.hash_eq_ok.mp hp).1 (Nat.not_le.mpr hlong)
    · rw [map_eq_ok]
      constructor
      · rintro ⟨token, htoken, rfl⟩
        exact ⟨rfl, hright.1, hright.2, htoken⟩
      · rintro ⟨hx, -, -, htoken⟩
        cases hx
        exact ⟨x.token, htoken, rfl⟩
    · refine ⟨nofun, ?_⟩
      rintro ⟨hx, hp, ha, -⟩
      cases hx
      exact absurd ⟨hp, ha⟩ hright

/-- Signing in goes well with the mail address and the password of somebody who signed up and is active, as
long as a token can be made. -/
theorem exists_login_iff {form : LoginForm} :
    (∃ x, Operation.login c form (Store.empty.following run).ledger = .ok x) ↔
      (∃ e : Enrolment run, e.form.email = form.email ∧ e.form.password = form.password ∧
        e.user.isActive = true) ∧ c.CanSign := by
  simp only [login_eq_ok (hashed_following run)]
  constructor
  · rintro ⟨x, hx, hp, hactive, htoken⟩
    obtain ⟨e, hemail, he⟩ := userOfEmail?_following.mp hx
    refine ⟨⟨e, hemail, ?_, by rw [he, hactive]⟩, exists_tokenFor_iff.mp ⟨x.token, htoken⟩⟩
    obtain ⟨-, hmade⟩ := Password.hash_eq_ok.mp e.hash_eq
    rw [he, (Password.hash_eq_ok.mp hp).2] at hmade
    exact (PasswordHash.made.inj hmade).symm
  · rintro ⟨⟨e, hemail, hp, hactive⟩, hsign⟩
    obtain ⟨token, htoken⟩ : ∃ token, Operation.tokenFor c e.user = .ok token :=
      exists_tokenFor_iff.mpr hsign
    exact ⟨⟨e.user, token⟩, userOfEmail?_following.mpr ⟨e, hemail, rfl⟩, hp ▸ e.hash_eq, hactive, htoken⟩

/-- An access that leaves the row of a user as it is leaves it to be found by its mail address. -/
theorem userOfEmail?_next (h : s.ledger.Distinct) (hu : s.ledger.userOfEmail? email = some u)
    (hsame : a.revise u = u) : (a.next s).ledger.userOfEmail? email = some u := by
  obtain ⟨hmem, hemail⟩ := h.userOfEmail?_eq_some.mp hu
  rw [(Access.distinct_next h a).userOfEmail?_eq_some, Access.mem_next h]
  exact ⟨Or.inl ⟨u, hmem, hsame⟩, hemail⟩

/-- After any run of sign-ups, sign-ins and users being switched on and off, the users are those who signed up
in it, and no two have an identifier or a mail address in common.

An address with which somebody signed up is refused and nothing changes; with any other, and with a password
and settings that allow it, signing up goes well and adds one user. Signing in goes well with the address and
the password of one sign-up, if that user is still active and the settings allow it. It finds that very user,
and changes nothing. What becomes of it is not touched by any access that does not switch that user. -/
theorem credentials_follow_enrolments (run : List Access) (c : Circumstances) :
    let s := Store.empty.following run
    ((∀ u, u ∈ s.ledger.users ↔ ∃ e : Enrolment run, e.user = u) ∧ s.ledger.Distinct) ∧
    (∀ form : SignupForm,
      ((∃ e : Enrolment run, e.form.email = form.email) →
        Operation.enrol c form s = (.error (.refusal (.duplicateEmail form.email)), s)) ∧
      (c.mishaps = calm → s.serial + 1 < Uuid.supply →
        ((∃ x, (Operation.enrol c form s).1 = .ok x) ↔
          (∀ e : Enrolment run, e.form.email ≠ form.email) ∧
            form.password.length ≤ Password.maxLength ∧ c.CanSign)) ∧
      ∀ x, (Operation.enrol c form s).1 = .ok x →
        (Operation.enrol c form s).2.ledger = { s.ledger with users := s.ledger.users ++ [x.user] }) ∧
    (∀ form : LoginForm,
      ((∃ x, Operation.login c form s.ledger = .ok x) ↔
        (∃ e : Enrolment run, e.form.email = form.email ∧ e.form.password = form.password ∧
          e.user.isActive = true) ∧ c.CanSign) ∧
      (∀ x, Operation.login c form s.ledger = .ok x → ∀ e : Enrolment run,
        e.form.email = form.email → x.user = e.user ∧ e.signedIn.user.Continues x.user) ∧
      ∀ e : Surroundings, (Gateway.login e form s).store = s) ∧
    ∀ (a : Access) (e : Enrolment run) (form : LoginForm), a.revise e.user = e.user →
      form.email = e.form.email →
        Operation.login c form (a.next s).ledger = Operation.login c form s.ledger := by
  intro s
  refine ⟨⟨fun u => mem_following, distinct_following run⟩, ?_, ?_, ?_⟩
  · intro form
    refine ⟨?_, ?_, ?_⟩
    · rintro ⟨e, hemail⟩
      exact enrol_taken (userOfEmail?_following.mpr ⟨e, hemail, rfl⟩)
    · intro hcalm hsupply
      rw [exists_enrol_iff hcalm (given_following run) hsupply, userOfEmail?_following_eq_none]
    · intro x hx
      obtain ⟨-, -, -, he, -⟩ := enrol_eq_ok hx
      exact Ledger.eq_of_insertUser he
  · intro form
    refine ⟨exists_login_iff, ?_, fun _ => rfl⟩
    intro x hx e hemail
    obtain ⟨hfound, -⟩ := (login_eq_ok (hashed_following run)).mp hx
    have he : some e.user = some x.user :=
      (userOfEmail?_following.mpr ⟨e, hemail, rfl⟩).symm.trans hfound
    rw [← Option.some.inj he]
    exact ⟨rfl, e.continues⟩
  · intro a e form hsame hemail
    have hu : s.ledger.userOfEmail? form.email = some e.user :=
      userOfEmail?_following.mpr ⟨e, hemail.symm, rfl⟩
    exact login_congr ((userOfEmail?_next (distinct_following run) hu hsame).trans hu.symm)

/-- John signs up, and his address is taken. He signs in, also after Jane has signed up, until he is switched
off. -/
theorem john_signs_in_until_switched_off :
    let c := keyed "abc"
    let joins := Access.signup c (johnsForm "SecurePass123!")
    let janeJoins := Access.signup c { johnsForm "SecurePass123!" with email := "jane@example.com" }
    let form : LoginForm := { email := "john@example.com", password := "SecurePass123!" }
    ∃ e : Enrolment [joins],
      (Operation.enrol c (johnsForm "AnotherPass") (Store.empty.following [joins])).1 =
        .error (.refusal (.duplicateEmail "john@example.com")) ∧
      (∃ x, Operation.login c form (Store.empty.following [joins]).ledger = .ok x ∧ x.user = e.user) ∧
      (∃ x, Operation.login c form (Store.empty.following [janeJoins, joins]).ledger = .ok x) ∧
      ∀ x, Operation.login c form
        (Store.empty.following [.activate e.user.id false c.now, joins]).ledger ≠ .ok x := by
  intro c joins janeJoins form
  have hsign : c.CanSign := canSign_ready
  obtain ⟨-, hempty, -⟩ := credentials_follow_enrolments [] c
  obtain ⟨-, hjoins, -⟩ := hempty (johnsForm "SecurePass123!")
  have hnobody : ∀ e : Enrolment [], e.form.email ≠ "john@example.com" := by
    intro e
    have hnil := e.split
    simp at hnil
  obtain ⟨x, hx⟩ := (hjoins rfl (by decide +kernel)).mpr ⟨hnobody, by decide, hsign⟩
  let e : Enrolment [joins] := .last hx
  obtain ⟨-, htaken, hlogin, hothers⟩ := credentials_follow_enrolments [joins] c
  obtain ⟨hsucceeds, huser, -⟩ := hlogin form
  obtain ⟨y, hy⟩ := hsucceeds.mpr ⟨⟨e, rfl, rfl, e.isActive_signedIn⟩, hsign⟩
  refine ⟨e, ?_, ⟨y, hy, (huser y hy e rfl).1⟩, ⟨y, ?_⟩, ?_⟩
  · rw [(htaken (johnsForm "AnotherPass")).1 ⟨e, rfl⟩]
    rfl
  · rw [← hy]
    exact hothers janeJoins e form rfl rfl
  · intro z hz
    let off := Access.activate e.user.id false c.now
    obtain ⟨-, -, hlater, -⟩ := credentials_follow_enrolments [off, joins] c
    obtain ⟨hsucceeds', huser', -⟩ := hlater form
    obtain ⟨⟨e', hemail, -, hactive'⟩, -⟩ := hsucceeds'.mp ⟨z, hz⟩
    have hsame : (e.before off).user = e'.user :=
      (huser' z hz (e.before off) rfl).1.symm.trans (huser' z hz e' hemail).1
    have hoff : (e.before off).user.isActive = false := congrArg User.isActive (if_pos rfl)
    rw [hsame, hactive'] at hoff
    cases hoff

end PayoutRegistry
