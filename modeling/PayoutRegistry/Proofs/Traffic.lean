import PayoutRegistry.Proofs.History
import PayoutRegistry.Proofs.Requests

/-!
Requests as events. A request leaves the store alone or is one event, so the states that requests reach are
those after histories. A request that passes its checks is the call that it asks for.
-/
namespace PayoutRegistry

namespace Checked

variable {α β : Type} {x : Checked α} {y : Checked β} {a : α} {b : β}

def value? : Checked α → Option α
  | .value a => some a
  | .issues _ => none

theorem value?_eq_some : x.value? = some a ↔ x = .value a := by
  cases x <;> simp [value?]

theorem pair_eq_value : Prod.mk <$> x <*> y = .value (a, b) ↔ x = .value a ∧ y = .value b := by
  cases x <;> cases y <;> simp [Functor.map, Seq.seq, seq]

end Checked

namespace Gateway

/-- The store after requests, of which the latest comes first. -/
def reached : List (Surroundings × Request) → Store
  | [] => .empty
  | (e, r) :: past => (handle e r (reached past)).store

/-- The calls that requests for accounts ask for, and what they have to bring for it. -/
inductive Asks (e : Surroundings) (r : Request) (l : Ledger) : Endpoint → Action → Prop
  | add {user : User} {form : AccountForm} (caller : caller? e.circumstances r l = some user)
      (filled : (Body.read r).fill AccountForm.read = .value form) :
      Asks e r l .add (.add e.courier { id := user.id, email := user.email } form none e.draw)
  | verify {account : String} {user : User} {id : Uuid} {form : CodeForm}
      (caller : caller? e.circumstances r l = some user) (named : accountId account = .value id)
      (filled : (Body.read r).fill CodeForm.read = .value form) :
      Asks e r l (.verify account) (.verify user.id id form.code)
  | list {user : User} (caller : caller? e.circumstances r l = some user) :
      Asks e r l .list (.list user.id)
  | promote {account : String} {user : User} {id : Uuid}
      (caller : caller? e.circumstances r l = some user) (named : accountId account = .value id) :
      Asks e r l (.promote account) (.promote user.id id)
  | delete {account : String} {user : User} {id : Uuid}
      (caller : caller? e.circumstances r l = some user) (named : accountId account = .value id) :
      Asks e r l (.delete account) (.delete user.id id)

/-- The call that a request asks for, if it brings all that it has to. -/
def call? (e : Surroundings) (r : Request) (l : Ledger) : Option Action :=
  match Route.find r.method r.path.toList with
  | .endpoint p => (caller? e.circumstances r l).bind fun user =>
    match p with
    | .add => ((Body.read r).fill AccountForm.read).value?.map fun form =>
      .add e.courier { id := user.id, email := user.email } form none e.draw
    | .verify account =>
      (Prod.mk <$> accountId account <*> (Body.read r).fill CodeForm.read).value?.map fun (id, form) =>
        .verify user.id id form.code
    | .list => some (.list user.id)
    | .promote account => (accountId account).value?.map (.promote user.id)
    | .delete account => (accountId account).value?.map (.delete user.id)
    | _ => none
  | _ => none

section Requests

variable {e : Surroundings} {r : Request} {s : Store} {l : Ledger} {p : Endpoint} {a : Action}

/-! ### One request -/

/-- The store is the one from before, or the one that an event leaves. -/
def Moved (s : Store) (v : Served) : Prop := v.store = s ∨ ∃ event : Event, v.store = event.next s

theorem moved_only (s : Store) (response : Response) : Moved s (.only s response) := Or.inl rfl

theorem moved_call {α : Type} {o : Outcome α} {m : Mishaps} {n status : Nat} {body : α → Json} (c : Circumstances)
    (a : Action) (ho : o.Settled) (h : o.store = (a.perform c s).store) : Moved s (.ofOutcome m n o status body) :=
  Or.inr ⟨.call c a, (ho.commit m n).trans h⟩

theorem moved_serve (e : Surroundings) (r : Request) (s : Store) (p : Endpoint) :
    Moved s (serve e r s p) := by
  have honly := moved_only s
  cases p with
  | signup =>
    exact withBody_induction honly fun _ _ => withInput_induction honly fun form _ =>
      Or.inr ⟨.signup e.circumstances form, rfl⟩
  | login =>
    exact withBody_induction honly fun _ _ => withInput_induction honly fun _ _ => Or.inl rfl
  | banks => exact withUser_induction honly fun _ _ => withInput_induction honly fun _ _ => Or.inl rfl
  | enquiry =>
    exact withBody_induction honly fun _ _ => withUser_induction honly fun _ _ =>
      withInput_induction honly fun _ _ => Or.inl rfl
  | add =>
    exact withBody_induction honly fun _ _ => withUser_induction honly fun user _ =>
      withInput_induction honly fun form _ => moved_call e.circumstances
        (.add e.courier { id := user.id, email := user.email } form none e.draw) settled_add rfl
  | verify account =>
    exact withBody_induction honly fun _ _ => withUser_induction honly fun user _ =>
      withInput_induction honly fun input _ =>
        moved_call e.circumstances (.verify user.id input.1 input.2.code) (settled_ofAttempt _ _) rfl
  | list =>
    exact withUser_induction honly fun user _ =>
      moved_call e.circumstances (.list user.id) (settled_list user.id) rfl
  | promote account =>
    exact withUser_induction honly fun user _ => withInput_induction honly fun id _ =>
      moved_call e.circumstances (.promote user.id id) (settled_ofAttempt _ _) rfl
  | delete account =>
    exact withUser_induction honly fun user _ => withInput_induction honly fun id _ =>
      moved_call e.circumstances (.delete user.id id) (settled_ofAttempt _ _) rfl
  | health => exact Or.inl rfl

theorem moved_handle (e : Surroundings) (r : Request) (s : Store) : Moved s (handle e r s) := by
  have htarget : Moved s (serveTarget e r s (Route.find r.method r.path.toList)) := by
    simp only [serveTarget]
    split
    · exact moved_serve e r s _
    · exact moved_only s _
    · exact moved_only s _
    · exact moved_only s _
  simp only [handle]
  split
  · exact moved_only s _
  · split <;> exact htarget

theorem reached_eq_after (past : List (Surroundings × Request)) :
    ∃ events, reached past = after events := by
  induction past with
  | nil => exact ⟨[], rfl⟩
  | cons request past ih =>
    obtain ⟨events, h⟩ := ih
    rw [reached]
    rcases moved_handle request.1 request.2 (reached past) with hs | ⟨event, hs⟩
    · exact ⟨events, hs.trans h⟩
    · exact ⟨event :: events, hs.trans (congrArg event.next h)⟩

/-! ### Requests that pass their checks -/

theorem withBody_of_fill {α : Type} {form : Json.Fields → Checked α} {a : α}
    {serve : Body → Served} (h : (Body.read r).fill form = .value a) :
    withBody r s serve = serve (Body.read r) := by
  simp only [withBody, rejection?_of_fill h]

theorem withUser_of_caller {user : User} {serve : User → Served}
    (h : caller? e.circumstances r s.ledger = some user) : withUser e r s serve = serve user := by
  obtain ⟨token, hbearer, huser⟩ := caller?_eq_some.mp h
  simp only [withUser, hbearer, huser]

theorem call?_eq_some :
    call? e r l = some a ↔ ∃ p, Route.find r.method r.path.toList = .endpoint p ∧ Asks e r l p a := by
  constructor
  · intro h
    simp only [call?] at h
    split at h
    · rename_i p hfind
      refine ⟨p, hfind, ?_⟩
      obtain ⟨user, hcaller, h⟩ := Option.bind_eq_some_iff.mp h
      split at h
      · obtain ⟨form, hform, rfl⟩ := Option.map_eq_some_iff.mp h
        exact .add hcaller (Checked.value?_eq_some.mp hform)
      · obtain ⟨⟨id, form⟩, hinput, rfl⟩ := Option.map_eq_some_iff.mp h
        obtain ⟨hid, hform⟩ := Checked.pair_eq_value.mp (Checked.value?_eq_some.mp hinput)
        exact .verify hcaller hid hform
      · cases h
        exact .list hcaller
      · obtain ⟨id, hid, rfl⟩ := Option.map_eq_some_iff.mp h
        exact .promote hcaller (Checked.value?_eq_some.mp hid)
      · obtain ⟨id, hid, rfl⟩ := Option.map_eq_some_iff.mp h
        exact .delete hcaller (Checked.value?_eq_some.mp hid)
      · cases h
    · cases h
  · rintro ⟨p, hfind, hasks⟩
    simp only [call?, hfind]
    cases hasks with
    | add caller filled => simp [caller, filled, Checked.value?]
    | verify caller named filled =>
      have hinput := Checked.value?_eq_some.mpr (Checked.pair_eq_value.mpr ⟨named, filled⟩)
      simp only [caller, Option.bind_some, hinput, Option.map_some]
    | list caller => simp [caller]
    | promote caller named => simp [caller, named, Checked.value?]
    | delete caller named => simp [caller, named, Checked.value?]

/-- A request that passes its checks is answered as the call that it asks for. -/
theorem serve_asks (h : Asks e r s.ledger p a) :
    serve e r s p = .ofCall (a.perform e.circumstances s) := by
  cases h with
  | add caller filled =>
    simp only [serve, withBody_of_fill filled, withUser_of_caller caller, filled, withInput]
    exact ofOutcome_eq_ofCall settled_add _ 2 .issued (fun _ => rfl) fun _ => rfl
  | verify caller named filled =>
    simp only [serve, withBody_of_fill filled, withUser_of_caller caller, named, filled]
    exact ofOutcome_eq_ofCall (settled_ofAttempt _ _) _ 2 .verified (fun _ => rfl) fun _ => rfl
  | list caller =>
    simp only [serve, withUser_of_caller caller]
    exact ofOutcome_eq_ofCall (settled_list _) _ 1 .listed (fun _ => rfl) fun _ => rfl
  | promote caller named =>
    simp only [serve, withUser_of_caller caller, named, withInput]
    exact ofOutcome_eq_ofCall (settled_ofAttempt _ _) _ 2 .promoted (fun _ => rfl) fun _ => rfl
  | delete caller named =>
    simp only [serve, withUser_of_caller caller, named, withInput]
    exact ofOutcome_eq_ofCall (settled_ofAttempt _ _) _ 2 (fun _ => .deleted) (fun _ => rfl) fun _ => rfl

/-- A request is served at its endpoint, and the response is marked. -/
theorem handle_endpoint (hfind : Route.find r.method r.path.toList = .endpoint p) :
    handle e r s = { serve e r s p with response := marked e r (serve e r s p).response } := by
  simp only [handle, question?_of_endpoint hfind, hfind, serveTarget, marked]
  split <;> rfl

/-- A request that comes to no endpoint gets an answer for which only the front door counts. -/
theorem handle_elsewhere (h : ∀ p, Route.find r.method r.path.toList ≠ .endpoint p) :
    ∃ response, ∀ e' : Surroundings, e'.door = e.door → handle e' r s = .only s response := by
  cases hfind : Route.find r.method r.path.toList with
  | endpoint p => exact absurd hfind (h p)
  | _ =>
    simp only [handle, hfind, serveTarget]
    cases Origin.question? r with
    | some question => exact ⟨Origin.preflight e.door.allowedOrigins .., fun _ hdoor => by rw [hdoor]⟩
    | none => exact ⟨Origin.mark e.door.allowedOrigins r _, fun _ hdoor => by rw [hdoor]; rfl⟩

theorem call?_none (h : call? e r s.ledger = none)
    (hfind : Route.find r.method r.path.toList = .endpoint p) : ∀ a, ¬Asks e r s.ledger p a := by
  intro a hasks
  have hsome := call?_eq_some.mpr ⟨p, hfind, hasks⟩
  rw [h] at hsome
  cases hsome

/-- A response is marked for other origins, but its status stays. -/
theorem status_handle (hfind : Route.find r.method r.path.toList = .endpoint p) :
    (handle e r s).response.status = (serve e r s p).response.status := by
  rw [handle_endpoint hfind, marked_status]

end Requests

end Gateway

end PayoutRegistry
