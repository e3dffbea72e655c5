import PayoutRegistry.Proofs.Requests
import PayoutRegistry.Proofs.Veil

/-!
Codes stay secret. Two runs of the same deeds that differ in the draws for codes look the same, as long
as the codes that are submitted are right in both or wrong in both: the same answers, log lines and
recipients, and the same store but for the codes in it.
-/
namespace PayoutRegistry

/-! ### Deeds and what shows of them -/

/-- What goes out, without what is inside. -/
def Outgoing.cover (o : Outgoing) : Outgoing := { o with body := none }

/-- A courier keeps a code to itself: nothing depends on it but what is inside the message that goes out. -/
structure Courier.Discreet (courier : Courier) : Prop where
  log : ∀ email code code', (courier email code).log = (courier email code').log
  result : ∀ email code code', (courier email code).result = (courier email code').result
  request : ∀ email code code',
    (courier email code).request.map Outgoing.cover = (courier email code').request.map Outgoing.cover

/-- A code that is submitted for an account. -/
structure Submission where
  owner : Uuid
  account : Uuid
  code : String

/-- Something that is done to the registry: a service is called, or a request comes in. -/
inductive Deed where
  | call (circumstances : Circumstances) (action : Action)
  | signup (circumstances : Circumstances) (form : SignupForm)
  | login (circumstances : Circumstances) (form : LoginForm)
  | request (surroundings : Surroundings) (request : Request)

/-- Rows that are listed are rows of the store. -/
def Answer.veiled : Answer → Answer
  | .listed accounts => .listed (accounts.map Account.veiled)
  | x => x

/-- Whether the code is the one that the account waits for. -/
def Ledger.hits (l : Ledger) (x : Submission) : Bool :=
  (l.owned? x.owner x.account).any fun a => a.code = some x.code

namespace Gateway

/-- The code that a request submits. -/
def submission? (c : Circumstances) (r : Request) (l : Ledger) : Option Submission :=
  match Route.find r.method r.path.toList with
  | .endpoint (.verify account) => (caller? c r l).bind fun user =>
    match Prod.mk <$> accountId account <*> (Body.read r).fill CodeForm.read with
    | .value (id, form) => some { owner := user.id, account := id, code := form.code }
    | .issues _ => none
  | _ => none

end Gateway

namespace Action

def submission? : Action → Option Submission
  | .verify owner id submitted => some { owner, account := id, code := submitted }
  | _ => none

def Discreet : Action → Prop
  | .add courier .. => Courier.Discreet courier
  | _ => True

/-- The call as it is made of a veiled store: a code that is right there, or one that is wrong. -/
def veiled (right : Bool) : Action → Action
  | .add courier owner form minutes _ => .add courier owner form minutes 0
  | .verify owner id _ => .verify owner id (if right then Code.ofDraw 0 else "")
  | a => a

def hits (l : Ledger) (a : Action) : Bool := a.submission?.any l.hits

end Action

namespace Deed

/-- Whether the deed submits a code, and the code is right. -/
def hits (l : Ledger) : Deed → Bool
  | .call _ a => a.hits l
  | .request e r => (Gateway.submission? e.circumstances r l).any l.hits
  | _ => false

def Discreet : Deed → Prop
  | .call _ a => a.Discreet
  | .request e _ => Courier.Discreet e.courier
  | _ => True

/-- The store after a deed. -/
def next (s : Store) : Deed → Store
  | .call c a => (a.perform c s).store
  | .signup c form => ((Operation.signup c form s).commit c.mishaps 1).2
  | .login .. => s
  | .request e r => (Gateway.handle e r s).store

def circumstances : Deed → Circumstances
  | .call c _ | .signup c _ | .login c _ => c
  | .request e _ => e.circumstances

/-- The statements that the database is given by a deed. -/
def sent (s : Store) : Deed → List Statement
  | .call c a => (a.perform c s).sent
  | .signup c form => (Operation.signup c form s).session.draft.sent
  | .login .. => []
  | .request e r => (Gateway.handle e r s).sent

/-- What the engine of the database logs of a deed. -/
def echo (s : Store) (d : Deed) : List Statement := d.circumstances.echo (d.sent s)

end Deed

namespace Store

/-- Which deeds submit the right code. -/
def hits (s : Store) : List Deed → List Bool
  | [] => []
  | d :: deeds => d.hits s.ledger :: (d.next s).hits deeds

end Store

/-! ### Decisions -/

section Decisions

open Operation

variable {l : Ledger} {owner id : Uuid} {form : AccountForm} {code submitted : String} {t now : Instant}

end Decisions

/-! ### Calls -/

section Calls

open Operation

variable {c : Circumstances} {s : Store}

variable {courier : Courier} {owner : Owner} {form : AccountForm} {given : Option Int} {draw : Nat}

end Calls

/-! ### Pairs of calls -/

variable {c : Circumstances} {s₁ s₂ : Store}

namespace Gateway

variable {e : Surroundings} {r : Request} {response : Response}

end Gateway

/-! ### Runs -/

section Development

variable {s : Store} {m : Mishaps} {limit : Binary64} {judge : Ledger → Decision} {steps : List Step}

/-- The database was given the statements of an attempt, whether or not they were undone later. -/
theorem Store.attempt_sent (hm : m .lock = none) (hv : (judge s.ledger).verdict = .ok steps) :
    (s.attempt m limit judge).session.draft.sent = (s.carryOut m steps).session.draft.sent := by
  have hbody : (s.body m judge).2 = (s.carryOut m steps).committed m 1 := by
    simp only [body, hm, hv]
  have hsent : (s.attempt m limit judge).session.draft.sent = (s.body m judge).2.session.draft.sent :=
    Session.repeat_rollback_keeps (f := fun s => s.draft.sent) (fun _ => rfl) _ _
  rw [hsent, hbody, Pending.draft_committed]

theorem Store.carryOut_sent {statement : Statement} (hm : m (.flush 1) = none) :
    (s.carryOut m [.flush [statement]]).session.draft.sent = [statement] := by
  have hexecute (d : Draft) :
      ((Work.execute statement >>= fun _ => pure ()).on d).2.sent = d.sent ++ [statement] := by
    rw [Work.on_bind, Work.on_execute]
    cases d.ledger.execute statement <;> rfl
  have hflush : ((Work.flush m [statement]).on s.session.draft).2.sent = [statement] := by
    change ((Work.call m (.flush 1) >>= fun _ => Work.execute statement >>= fun _ => pure ()).on
      { s.session.draft with flushes := 1 }).2.sent = _
    rw [Work.on_bind, Work.on_call, hm]
    exact hexecute _
  have hrun : (s.carryOut m [.flush [statement]]).session.draft =
    ((Work.flush m [statement] >>= fun _ => pure ()).on s.session.draft).2 := rfl
  rw [hrun, Work.on_bind]
  rcases h : (Work.flush m [statement]).on s.session.draft with ⟨f | ⟨⟩, d⟩
  · rw [h] at hflush
    exact hflush
  · rw [h] at hflush
    exact hflush

/-- While things are being developed, the log of the engine shows the code of every account that is added. -/
theorem echo_shows_code {c : Circumstances} {courier : Courier} {owner : Owner} {form : AccountForm}
    {given : Option Int} {draw : Nat} {i : Issued} (hdebug : c.settings.debug = true)
    (hr : (Operation.add c courier owner form given draw s).result = .ok i) :
    ∃ row : Account, row.code = some (Code.ofDraw draw) ∧
      (c.echo (Operation.add c courier owner form given draw s).sent = [.insert row] ∨
        c.echo (Operation.add c courier owner form given draw s).sent = [.update row]) := by
  obtain ⟨t, ht, hok⟩ := add_ok hr
  obtain ⟨hlock, steps, hv, hcalls⟩ := Store.attempt_calls hok
  have hsent : (addAttempt c owner form draw t s).session.draft.sent =
    (s.carryOut c.mishaps steps).session.draft.sent := Store.attempt_sent hlock hv
  simp only [add_succeeded courier ht hok, hsent, Circumstances.echo, hdebug, ↓reduceIte]
  have hflush {statement : Statement} (h : steps = [.flush [statement]]) : c.mishaps (.flush 1) = none := by
    refine hcalls _ ?_
    rw [h, made_flush]
    exact List.mem_cons_self ..
  rcases Operation.decideAdd_ok hv with ⟨a, -, -, hsteps⟩ | ⟨-, hsteps⟩
  · rw [hsteps, Store.carryOut_sent (hflush hsteps)]
    exact ⟨_, rfl, .inr rfl⟩
  · rw [hsteps, Store.carryOut_sent (hflush hsteps)]
    exact ⟨_, rfl, .inl rfl⟩

end Development

end PayoutRegistry
