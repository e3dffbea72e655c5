import PayoutRegistry.Gateway.Basic
import PayoutRegistry.Proofs.Retry

/-!
Requests. Those that ask for a change to accounts are calls behind a number of checks, so that what holds of
calls that fail holds of requests that are not answered with a success.
-/
namespace PayoutRegistry

/-- Nothing is left of a request that was served on a store. -/
structure Served.Undone (s : Store) (v : Served) : Prop where
  ledger : v.store.ledger = s.ledger
  handovers : v.handovers = []
  posted : v.posted = []
  silent : Silent v.log

/-- A second response that is a first one over again. -/
structure Served.Same (v v' : Served) : Prop where
  response : v'.response = v.response
  ledger : v'.store.ledger = v.store.ledger
  log : v'.log = v.log
  handovers : v'.handovers = v.handovers
  posted : v'.posted = v.posted

/-- A second response that differs from a first one at most in the number that a new account got. -/
structure Served.Renumbered (old new : Uuid) (v v' : Served) : Prop where
  ledger : v'.store.ledger = v.store.ledger.renumbered old new
  handovers : v'.handovers = v.handovers
  posted : v'.posted = v.posted
  status : v'.response.status = v.response.status
  headers : v'.response.headers = v.response.headers
  content : v'.response.content = v.response.content ∨ ∃ minutes,
    v.response.content = .json (IssuedAnswer.toJson { id := old, expiresInMinutes := minutes }) ∧
    v'.response.content = .json (IssuedAnswer.toJson { id := new, expiresInMinutes := minutes })

/-- The endpoints that change accounts. -/
def Endpoint.changes : Endpoint → Bool
  | .add | .verify _ | .promote _ | .delete _ => true
  | _ => false

/-- Whether an endpoint can bring in an account. -/
def Endpoint.adds : Endpoint → Bool
  | .add => true
  | _ => false

namespace Answer

def status : Answer → Nat
  | .issued _ => 201
  | _ => 200

def toJson : Answer → Json
  | .issued i => IssuedAnswer.toJson { id := i.id, expiresInMinutes := i.minutes }
  | .verified v => VerifiedAnswer.toJson { id := v.id, isVerified := v.isVerified, isPrimary := v.isPrimary }
  | .promoted p => PrimaryAnswer.toJson { id := p.id, isPrimary := p.isPrimary }
  | .deleted => MessageAnswer.toJson { message := "Bank account deleted successfully" }
  | .listed accounts => .list (accounts.map fun a => (Gateway.accountAnswer a).toJson)

end Answer

/-- The outcome of a call as a response. -/
def Served.ofCall (o : Outcome Answer) : Served :=
  { store := o.store, log := o.log, handovers := o.handovers, posted := o.posted, asked := none,
    sent := o.sent
    response := match o.result with
      | .ok x => .json x.status x.toJson
      | .error f => .ofFailure f }

/-- What closes the session of a request finds nothing to do after a settled operation. -/
theorem ofOutcome_eq_ofCall {α : Type} {o : Outcome α} (h : o.Settled) (m : Mishaps) (n : Nat) (g : α → Answer)
    {status : Nat} {body : α → Json} (hstatus : ∀ a, (g a).status = status) (hbody : ∀ a, (g a).toJson = body a) :
    Served.ofOutcome m n o status body = Served.ofCall (o.map g) := by
  simp only [Served.ofOutcome, Served.ofCall, Outcome.map, h.commit]
  cases o.result with
  | error f => rfl
  | ok a => simp only [Except.map, hstatus, hbody]

namespace Gateway

variable {e : Surroundings} {r : Request} {s s' : Store} {l : Ledger} {old new : Uuid} {adds : Bool}

/-! ### Requests that come to an endpoint -/

theorem find_endpoint {method : String} {path : List Char} {p : Endpoint}
    (h : Route.find method path = .endpoint p) :
    ∃ route ∈ Route.all, ∃ account, route.method = method ∧ route.endpoint account = p := by
  simp only [Route.find] at h
  split at h
  · rename_i route account hf
    cases h
    obtain ⟨route', hm, hr⟩ := List.mem_filterMap.mp (List.mem_of_find?_eq_some hf)
    obtain ⟨account', -, hpair⟩ := Option.map_eq_some_iff.mp hr
    cases hpair
    exact ⟨route, hm, account, by simpa using List.find?_some hf, rfl⟩
  · split at h
    · cases h
    · -- Neither a path with a slash more nor one with a slash less is an endpoint.
      split at h <;> split at h <;> cases h

/-- No endpoint is reached by the method with which browsers ask what is allowed. -/
theorem question?_of_endpoint {p : Endpoint}
    (h : Route.find r.method r.path.toList = .endpoint p) : Origin.question? r = none := by
  obtain ⟨route, hm, -, hmethod, -⟩ := find_endpoint h
  have hne : ∀ route ∈ Route.all, route.method ≠ "OPTIONS" := by
    simp [Route.all]
  rw [Origin.question?, if_neg (hmethod ▸ hne route hm)]

/-- A body that fills in a form is one that can be looked at. -/
theorem rejection?_of_fill {α : Type} {form : Json.Fields → Checked α} {body : Body} {a : α}
    (h : body.fill form = .value a) : body.rejection? = none := by
  cases body with
  | absent | value | other => rfl
  | malformed | unreadable => cases h

/-- A response for a request of any origin: failures that are not told about are not marked. -/
def marked (e : Surroundings) (r : Request) (response : Response) : Response :=
  if response.status = 500 then response else Origin.mark e.door.allowedOrigins r response

theorem handle_of_serve_only {p : Endpoint} {response : Response}
    (hfind : Route.find r.method r.path.toList = .endpoint p)
    (hserve : serve e r s p = .only s response) :
    handle e r s = .only s (marked e r response) := by
  simp only [handle, question?_of_endpoint hfind, hfind, serveTarget, hserve, marked]
  change (if response.status = 500 then Served.only s response else _) = _
  split <;> rfl

/-! ### The checks before a request is served -/

/-- The user who sends a request. -/
def caller? (c : Circumstances) (r : Request) (l : Ledger) : Option User :=
  (bearer? r).bind fun token => (Operation.currentUser c token l).toOption

theorem caller?_eq_some {c : Circumstances} {user : User} : caller? c r l = some user ↔
    ∃ token, bearer? r = some token ∧ Operation.currentUser c token l = .ok user := by
  simp only [caller?, Option.bind_eq_some_iff]
  refine exists_congr fun token => and_congr_right fun _ => ?_
  cases Operation.currentUser c token l <;> simp [Except.toOption]

section Checks

variable {P : Served → Prop}

/-- What holds of all responses that leave the store alone, and of what is served for a body that can be
looked at. -/
theorem withBody_induction {serve : Body → Served} (only : ∀ response, P (.only s response))
    (served : ∀ body, Body.read r = body → P (serve body)) : P (withBody r s serve) := by
  simp only [withBody]
  split
  · exact only _
  · exact served _ rfl

theorem withUser_induction {serve : User → Served} (only : ∀ response, P (.only s response))
    (served : ∀ user, caller? e.circumstances r s.ledger = some user → P (serve user)) :
    P (withUser e r s serve) := by
  simp only [withUser]
  split
  · exact only _
  · rename_i token htoken
    split
    · exact only _
    · rename_i user huser
      exact served user (caller?_eq_some.mpr ⟨token, htoken, huser⟩)

theorem withInput_induction {α : Type} {body : Body} {input : Checked α} {serve : α → Served}
    (only : ∀ response, P (.only s response)) (served : ∀ a, input = .value a → P (serve a)) :
    P (withInput s body input serve) := by
  simp only [withInput]
  split
  · exact served _ rfl
  · exact only _

end Checks

/-! ### Serving as a function of the store -/

/-- While the ledger is what it is, serving either answers without the store, or makes one call, which
either can bring in an account or cannot. -/
def Calls (c : Circumstances) (l : Ledger) (adds : Bool) (serve : Store → Served) : Prop :=
  (∃ response, ∀ s : Store, s.ledger = l → serve s = .only s response) ∨
    ∃ a : Action, a.adds = adds ∧ ∀ s : Store, s.ledger = l → serve s = .ofCall (a.perform c s)

theorem calls_only {c : Circumstances} (response : Response) :
    Calls c l adds fun s => .only s response :=
  Or.inl ⟨response, fun _ _ => rfl⟩

theorem calls_withBody {c : Circumstances} {serve : Store → Body → Served}
    (h : ∀ body, Calls c l adds fun s => serve s body) :
    Calls c l adds fun s => withBody r s (serve s) := by
  simp only [withBody]
  cases (Body.read r).rejection? with
  | some response => exact calls_only response
  | none => exact h _

theorem calls_withUser {serve : Store → User → Served}
    (h : ∀ user, Calls e.circumstances l adds fun s => serve s user) :
    Calls e.circumstances l adds fun s => withUser e r s (serve s) := by
  simp only [withUser]
  cases bearer? r with
  | none => exact calls_only _
  | some token =>
    cases hu : Operation.currentUser e.circumstances token l with
    | error f =>
      refine Or.inl ⟨.ofFailure f, ?_⟩
      intro s hs
      simp only [hs, hu]
    | ok user =>
      rcases h user with ⟨response, hr⟩ | ⟨a, hadds, ha⟩
      · refine Or.inl ⟨response, ?_⟩
        intro s hs
        simp only [hs, hu]
        exact hr s hs
      · refine Or.inr ⟨a, hadds, ?_⟩
        intro s hs
        simp only [hs, hu]
        exact ha s hs

theorem calls_withInput {α : Type} {c : Circumstances} {body : Body} {input : Checked α}
    {serve : Store → α → Served} (h : ∀ a, Calls c l adds fun s => serve s a) :
    Calls c l adds fun s => withInput s body input (serve s) := by
  simp only [withInput]
  cases input with
  | value a => exact h a
  | issues list => exact calls_only _

/-- An endpoint that changes accounts makes one call, if it comes to that. -/
theorem calls_serve (l : Ledger) {p : Endpoint} (hp : p.changes = true) :
    Calls e.circumstances l p.adds fun s => serve e r s p := by
  cases p with
  | add =>
    simp only [serve]
    refine calls_withBody fun body => ?_
    refine calls_withUser fun user => ?_
    refine calls_withInput fun form => ?_
    refine Or.inr ⟨.add e.courier { id := user.id, email := user.email } form none e.draw, rfl, ?_⟩
    intro s _
    exact ofOutcome_eq_ofCall settled_add _ 2 .issued (fun _ => rfl) fun _ => rfl
  | verify account =>
    simp only [serve]
    refine calls_withBody fun body => ?_
    refine calls_withUser fun user => ?_
    refine calls_withInput fun input => ?_
    refine Or.inr ⟨.verify user.id input.1 input.2.code, rfl, ?_⟩
    intro s _
    exact ofOutcome_eq_ofCall (settled_ofAttempt _ _) _ 2 .verified (fun _ => rfl) fun _ => rfl
  | promote account =>
    refine calls_withUser fun user => ?_
    refine calls_withInput fun id => ?_
    refine Or.inr ⟨.promote user.id id, rfl, ?_⟩
    intro s _
    exact ofOutcome_eq_ofCall (settled_ofAttempt _ _) _ 2 .promoted (fun _ => rfl) fun _ => rfl
  | delete account =>
    refine calls_withUser fun user => ?_
    refine calls_withInput fun id => ?_
    refine Or.inr ⟨.delete user.id id, rfl, ?_⟩
    intro s _
    exact ofOutcome_eq_ofCall (settled_ofAttempt _ _) _ 2 (fun _ => .deleted) (fun _ => rfl) fun _ => rfl
  | _ => cases hp

/-! ### Requests that are not answered with a success -/

theorem mark_status (allowed : List String) (r : Request) (response : Response) :
    (Origin.mark allowed r response).status = response.status := by
  simp only [Origin.mark]
  split <;> rfl

theorem marked_status (response : Response) : (marked e r response).status = response.status := by
  rw [marked]
  split
  · rfl
  · exact mark_status _ _ _

end Gateway

def quiet : Surroundings :=
  { door := { allowedOrigins := [], defaultCountry := "NG" }, circumstances := default,
    courier := Delivery.withheld.send (.fault .overflow), draw := 0, directory := .fault .overflow }

/-- A request to delete an account that does not say who asks. -/
def anonymous : Request :=
  { method := "DELETE", host := "test", path := "/bank-accounts/x", rawQuery := "", headers := [],
    body := [] }

end PayoutRegistry
