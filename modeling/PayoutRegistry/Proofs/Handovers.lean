import Mathlib.Data.List.Forall2
import PayoutRegistry.Proofs.Codes
import PayoutRegistry.Proofs.Secrecy
import PayoutRegistry.Proofs.Traffic

/-!
What is given to the courier. Each account that is added makes one handover, of the code that its row then
holds, and nothing else makes any. A courier that fails shows in the log and nowhere else.
-/
namespace PayoutRegistry

/-- An account that was added: for whom, under which identifier, and the ledger right after. -/
structure Addition where
  owner : Owner
  id : Uuid
  ledger : Ledger

/-- The handover that goes with an addition: to the owner's address, with the code in the account's row. -/
structure Handover.Fits (h : Handover) (x : Addition) : Prop where
  email : h.email = x.owner.email
  stored : ∃ a, x.ledger.account? x.id = some a ∧ a.owner = x.owner.id ∧ a.code = some h.code

/-- The courier without its failures. -/
def Courier.spared (courier : Courier) : Courier := fun email code =>
  { courier email code with result := .ok () }

def Surroundings.spared (e : Surroundings) : Surroundings := { e with courier := e.courier.spared }

namespace Action

variable (c : Circumstances) (s : Store)

/-- The addition that a call makes, if it succeeds. -/
def addition? : Action → Option Addition
  | .add courier owner form given draw =>
    let o := Operation.add c courier owner form given draw s
    match o.result with
    | .ok i => some { owner, id := i.id, ledger := o.store.ledger }
    | .error _ => none
  | _ => none

/-- The same call with a courier that does not fail. -/
def spared : Action → Action
  | .add courier owner form given draw => .add courier.spared owner form given draw
  | a => a

/-- The warning about a courier that failed, once the account was added. -/
def warnings : Action → List LogRecord
  | .add courier owner form given draw =>
    match (Operation.add c courier owner form given draw s).result,
        (courier owner.email (Code.ofDraw draw)).result with
    | .ok i, .error f => [Operation.undelivered owner.id i.id f]
    | _, _ => []
  | _ => []

end Action

namespace Deed

/-- The call that a deed makes. -/
def call? (s : Store) : Deed → Option (Circumstances × Action)
  | .call c a => some (c, a)
  | .request e r => (Gateway.call? e r s.ledger).map (e.circumstances, ·)
  | _ => none

def addition? (s : Store) (d : Deed) : Option Addition := (d.call? s).bind fun (c, a) => a.addition? c s

/-- What a deed gives to the courier. Those who sign up or in have none. -/
def handovers (s : Store) : Deed → List Handover
  | .call c a => (a.perform c s).handovers
  | .request e r => (Gateway.handle e r s).handovers
  | _ => []

end Deed

namespace Store

/-- All that is given to the courier in a run of deeds. -/
def handovers (s : Store) : List Deed → List Handover
  | [] => []
  | d :: deeds => d.handovers s ++ (d.next s).handovers deeds

/-- The accounts that are added in a run of deeds. -/
def additions (s : Store) : List Deed → List Addition
  | [] => []
  | d :: deeds => (d.addition? s).toList ++ (d.next s).additions deeds

end Store

/-! ### One call -/

section Calls

variable {c : Circumstances} {s : Store} {a : Action} {x : Addition}

theorem addition?_eq_some : a.addition? c s = some x ↔ ∃ courier form given draw i,
    a = .add courier x.owner form given draw ∧
      (Operation.add c courier x.owner form given draw s).result = .ok i ∧ x.id = i.id ∧
      x.ledger = (Operation.add c courier x.owner form given draw s).store.ledger := by
  constructor
  · intro h
    cases a with
    | add courier owner form given draw =>
      simp only [Action.addition?] at h
      split at h
      · rename_i i hi
        cases h
        exact ⟨courier, form, given, draw, i, rfl, hi, rfl, rfl⟩
      · cases h
    | _ => cases h
  · rintro ⟨courier, form, given, draw, i, rfl, hi, hid, hl⟩
    simp only [Action.addition?, hi, ← hid, ← hl]

/-- Right after it is added, an account waits for the code that was drawn, for as long as the answer says. -/
theorem row_of_addition {owner : Owner} {form : AccountForm} {given : Option Int} {draw : Nat}
    {courier : Courier} {i : Issued} {l : Ledger} (hs : s.ledger.Sound)
    (h : Accepted c s (.add courier owner form given draw) (.issued i) l) :
    ∃ row t, l.account? i.id = some row ∧ row.owner = owner.id ∧ row.code = some (Code.ofDraw draw) ∧
      row.deadline = some t ∧ Code.deadline? i.minutes c.now = some t := by
  cases h with
  | @refresh _ _ _ _ _ row t found waiting due =>
    obtain ⟨hmem, howner, -⟩ := Ledger.registered?_some found
    exact ⟨Operation.refreshed row form (Code.ofDraw draw) t c.now, t,
      Ledger.account?_overwritten hs hmem rfl, howner, rfl, rfl, due⟩
  | @insert _ _ _ _ _ t absent free due =>
    exact ⟨Operation.newAccount s.nextId owner.id form (Code.ofDraw draw) t c.now, t,
      Ledger.account?_added free, rfl, rfl, rfl, due⟩

/-- Only adding an account comes to a handover, and only if it succeeds. -/
theorem handovers_of_addition?_none (h : a.addition? c s = none) : (a.perform c s).handovers = [] := by
  cases hr : (a.perform c s).result with
  | error f => exact (undone_perform hr).handovers
  | ok x =>
    cases a with
    | add courier owner form given draw =>
      obtain ⟨i, hi, -⟩ := map_eq_ok.mp hr
      simp only [Action.addition?, hi] at h
      cases h
    | list owner =>
      obtain ⟨result, h⟩ := @list_eq c s owner
      rw [Action.perform, Outcome.map, h]
    | _ =>
      simp only [Action.perform, Operation.verify, Operation.promote, Operation.delete, Outcome.map,
        Outcome.ofAttempt]
      split <;> rfl

theorem handovers_perform (hs : s.ledger.Sound) (c : Circumstances) (a : Action) :
    List.Forall₂ Handover.Fits (a.perform c s).handovers (a.addition? c s).toList := by
  cases hx : a.addition? c s with
  | none =>
    rw [handovers_of_addition?_none hx]
    exact .nil
  | some x =>
    obtain ⟨courier, form, given, draw, i, rfl, hi, hid, hl⟩ := addition?_eq_some.mp hx
    obtain ⟨-, -, -, hhanded⟩ := add_issued hi
    obtain ⟨row, -, hrow, howner, hcode, -⟩ := row_of_addition hs (add_accepted hs hi)
    simp only [Action.perform, Outcome.map, hhanded, Option.toList_some]
    refine .cons ⟨rfl, row, ?_, howner, hcode⟩ .nil
    rwa [hid, hl]

/-- Nothing failed on the way to the commit. -/
theorem calls_of_addition (h : a.addition? c s = some x) :
    ∀ p ∈ [Call.lock, .flush 1, .commit 1], c.mishaps p = none := by
  obtain ⟨courier, form, given, draw, i, rfl, hi, -⟩ := addition?_eq_some.mp h
  obtain ⟨t, -, hok⟩ := add_ok hi
  obtain ⟨hlock, steps, hv, hcalls⟩ := Store.attempt_calls hok
  have hmade : s.ledger.made 0 steps = [.flush 1] := by
    obtain ⟨-, -, -, rfl⟩ | ⟨-, rfl⟩ := Operation.decideAdd_ok hv
    · exact made_flush ..
    · exact made_flush ..
  rw [hmade] at hcalls
  intro p hp
  obtain rfl | hp := List.mem_cons.mp hp
  · exact hlock
  · exact hcalls p hp

/-- A courier that fails costs a line in the log: all else is as with one that does not. -/
theorem perform_spared (c : Circumstances) (s : Store) (a : Action) : a.perform c s =
    { a.spared.perform c s with log := (a.spared.perform c s).log ++ a.warnings c s } := by
  cases a with
  | add courier owner form given draw =>
    simp only [Action.perform, Action.spared, Action.warnings, Outcome.map]
    cases ht : Code.deadline? (given.getD c.settings.codeMinutes) c.now with
    | none => simp only [Operation.add, ht, Outcome.failed, List.append_nil]
    | some t =>
      cases hres : (addAttempt c owner form draw t s).result with
      | error f => simp only [add_failed ht hres, Outcome.ofFailedAttempt, List.append_nil]
      | ok =>
        simp only [add_succeeded _ ht hres, issueLog, Courier.spared]
        cases (courier owner.email (Code.ofDraw draw)).result <;> simp
  | _ => simp only [Action.spared, Action.warnings, List.append_nil]

end Calls

/-! ### One request -/

/-- Nothing was given to the courier. -/
def Served.KeepsCodes (v : Served) : Prop := v.handovers = []

namespace Gateway

variable {e : Surroundings} {r : Request} {s : Store} {p : Endpoint}

theorem withBody_congr {serve serve' : Body → Served}
    (h : ∀ body, Body.read r = body → serve body = serve' body) :
    withBody r s serve = withBody r s serve' := by
  simp only [withBody]
  split
  · rfl
  · exact h _ rfl

theorem withUser_congr {serve serve' : User → Served}
    (h : ∀ user, caller? e.circumstances r s.ledger = some user → serve user = serve' user) :
    withUser e r s serve = withUser e r s serve' := by
  simp only [withUser]
  split
  · rfl
  · rename_i token htoken
    split
    · rfl
    · rename_i user huser
      exact h user (caller?_eq_some.mpr ⟨token, htoken, huser⟩)

theorem withInput_congr {α : Type} {body : Body} {input : Checked α} {serve serve' : α → Served}
    (h : ∀ a, input = .value a → serve a = serve' a) :
    withInput s body input serve = withInput s body input serve' := by
  simp only [withInput]
  split
  · exact h _ rfl
  · rfl

/-- A request that asks for no call gives nothing to the courier. -/
theorem keepsCodes_unasked (h : ∀ a, ¬Asks e r s.ledger p a) : (serve e r s p).KeepsCodes := by
  have honly : ∀ response, (Served.only s response).KeepsCodes := fun _ => rfl
  cases p with
  | signup | login =>
    exact withBody_induction honly fun _ _ => withInput_induction honly fun _ _ => rfl
  | banks => exact withUser_induction honly fun _ _ => withInput_induction honly fun _ _ => rfl
  | enquiry =>
    exact withBody_induction honly fun _ _ => withUser_induction honly fun _ _ =>
      withInput_induction honly fun _ _ => rfl
  | add =>
    refine withBody_induction honly ?_
    rintro _ rfl
    exact withUser_induction honly fun user hcaller => withInput_induction honly fun form hform =>
      absurd (.add hcaller hform) (h _)
  | verify account =>
    refine withBody_induction honly ?_
    rintro _ rfl
    refine withUser_induction honly fun user hcaller => withInput_induction honly fun input hinput => ?_
    obtain ⟨hid, hform⟩ := Checked.pair_eq_value.mp hinput
    exact absurd (.verify hcaller hid hform) (h _)
  | list => exact withUser_induction honly fun user hcaller => absurd (.list hcaller) (h _)
  | promote account =>
    exact withUser_induction honly fun user hcaller => withInput_induction honly fun id hid =>
      absurd (.promote hcaller hid) (h _)
  | delete account =>
    exact withUser_induction honly fun user hcaller => withInput_induction honly fun id hid =>
      absurd (.delete hcaller hid) (h _)
  | health => rfl

/-- A request that asks for no call does not depend on the courier. -/
theorem serve_spared (h : ∀ a, ¬Asks e r s.ledger p a) : serve e r s p = serve e.spared r s p := by
  cases p with
  | add =>
    simp only [serve]
    refine withBody_congr ?_
    rintro _ rfl
    exact withUser_congr fun user hcaller => withInput_congr fun form hform =>
      absurd (.add hcaller hform) (h _)
  | _ => rfl

theorem asks_spared {l : Ledger} {a : Action} (h : Asks e r l p a) : Asks e.spared r l p a.spared := by
  cases h with
  | add caller filled => exact .add (e := e.spared) caller filled
  | verify caller named filled => exact .verify (e := e.spared) caller named filled
  | list caller => exact .list (e := e.spared) caller
  | promote caller named => exact .promote (e := e.spared) caller named
  | delete caller named => exact .delete (e := e.spared) caller named

theorem handovers_handle (hs : s.ledger.Sound) (e : Surroundings) (r : Request) :
    List.Forall₂ Handover.Fits (handle e r s).handovers
      ((call? e r s.ledger).bind fun a => a.addition? e.circumstances s).toList := by
  cases hcall : call? e r s.ledger with
  | some a =>
    obtain ⟨p, hfind, hasks⟩ := call?_eq_some.mp hcall
    rw [handle_endpoint hfind, serve_asks hasks]
    exact handovers_perform hs e.circumstances a
  | none =>
    by_cases hfind : ∃ p, Route.find r.method r.path.toList = .endpoint p
    · obtain ⟨p, hfind⟩ := hfind
      have hkeeps : (serve e r s p).handovers = [] := keepsCodes_unasked (call?_none hcall hfind)
      rw [handle_endpoint hfind, hkeeps]
      exact .nil
    · obtain ⟨response, hresponse⟩ := handle_elsewhere (e := e) (not_exists.mp hfind)
      rw [hresponse e rfl]
      exact .nil

/-- For a request, too, a courier that fails costs a line in the log. -/
theorem handle_spared (e : Surroundings) (r : Request) (s : Store) : handle e r s =
    { handle e.spared r s with
      log := (handle e.spared r s).log ++
        ((call? e r s.ledger).map (·.warnings e.circumstances s)).getD [] } := by
  cases hcall : call? e r s.ledger with
  | some a =>
    obtain ⟨p, hfind, hasks⟩ := call?_eq_some.mp hcall
    rw [handle_endpoint hfind, handle_endpoint (e := e.spared) hfind, serve_asks hasks,
      serve_asks (asks_spared hasks)]
    cases a with
    | add courier owner form given draw =>
      simp only [perform_spared e.circumstances s (.add courier owner form given draw)]
      rfl
    | _ => simp only [Action.spared, Action.warnings, Option.map_some, Option.getD_some, List.append_nil]; rfl
  | none =>
    simp only [Option.map_none, Option.getD_none, List.append_nil]
    by_cases hfind : ∃ p, Route.find r.method r.path.toList = .endpoint p
    · obtain ⟨p, hfind⟩ := hfind
      rw [handle_endpoint hfind, handle_endpoint (e := e.spared) hfind,
        serve_spared (call?_none hcall hfind)]
      rfl
    · obtain ⟨response, hresponse⟩ := handle_elsewhere (e := e) (not_exists.mp hfind)
      rw [hresponse e rfl, hresponse e.spared rfl]

end Gateway

/-! ### Runs -/

section Runs

variable {s : Store}

theorem sound_deed (h : s.ledger.Sound) (d : Deed) : (d.next s).ledger.Sound := by
  cases d with
  | call c a => exact sound_next h (.call c a)
  | signup c form => exact sound_next h (.signup c form)
  | login c form => exact h
  | request e r =>
    obtain hs | ⟨event, hs⟩ := Gateway.moved_handle e r s
    · rw [Deed.next, hs]
      exact h
    · rw [Deed.next, hs]
      exact sound_next h event

theorem handovers_deed (h : s.ledger.Sound) (d : Deed) :
    List.Forall₂ Handover.Fits (d.handovers s) (d.addition? s).toList := by
  cases d with
  | call c a => exact handovers_perform h c a
  | signup c form | login c form => exact .nil
  | request e r =>
    simp only [Deed.addition?, Deed.call?, Option.bind_map]
    exact Gateway.handovers_handle h e r

theorem handovers_run (h : s.ledger.Sound) (deeds : List Deed) :
    List.Forall₂ Handover.Fits (s.handovers deeds) (s.additions deeds) := by
  induction deeds generalizing s with
  | nil => exact .nil
  | cons d deeds ih => exact List.rel_append (handovers_deed h d) (ih (sound_deed h d))

end Runs

/-- In every run, what is given to the courier and the accounts that are added go together one by one and in
order: each code goes to the owner of an account whose row holds it by then. What adds an account got through
to the commit. A call whose courier fails is the call whose courier does not, but for a warning at the end
of its log, and so is a request. -/
theorem codes_handed_over_once (deeds : List Deed) :
    List.Forall₂ Handover.Fits (Store.empty.handovers deeds) (Store.empty.additions deeds) ∧
    (∀ (s : Store) (d : Deed) (x : Addition), d.addition? s = some x →
      ∃ c a, d.call? s = some (c, a) ∧ ∀ p ∈ [Call.lock, .flush 1, .commit 1], c.mishaps p = none) ∧
    (∀ (c : Circumstances) (s : Store) (a : Action), a.perform c s =
      { a.spared.perform c s with log := (a.spared.perform c s).log ++ a.warnings c s }) ∧
    ∀ (e : Surroundings) (r : Request) (s : Store), Gateway.handle e r s =
      { Gateway.handle e.spared r s with
        log := (Gateway.handle e.spared r s).log ++
          ((Gateway.call? e r s.ledger).map (·.warnings e.circumstances s)).getD [] } := by
  refine ⟨handovers_run Ledger.sound_empty deeds, ?_, perform_spared, Gateway.handle_spared⟩
  intro s d x hx
  obtain ⟨⟨c, a⟩, hcall, hadd⟩ := Option.bind_eq_some_iff.mp hx
  exact ⟨c, a, hcall, calls_of_addition hadd⟩

end PayoutRegistry
