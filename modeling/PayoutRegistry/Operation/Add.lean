import PayoutRegistry.Code
import PayoutRegistry.Form.Request
import PayoutRegistry.Operation.Basic

/-!
Adding an account. A new account waits for the code that is sent to its owner. Adding it again while it
waits puts in the new names and a new code; adding it again after that is refused. The code is sent only
when the account is stored, and the answer does not depend on whether it arrives.
-/
namespace PayoutRegistry

/-- Who adds an account, and where the code goes. -/
structure Owner where
  id : Uuid
  email : String
deriving DecidableEq, Repr

/-- The account that waits for a code, and the minutes it has. -/
structure Issued where
  id : Uuid
  minutes : Int
deriving DecidableEq, Repr

namespace Operation

/-- A new account, waiting for its code. -/
def newAccount (id owner : Uuid) (form : AccountForm) (code : String) (deadline now : Instant) : Account :=
  { id, owner, number := form.number, holder := form.holder, bankName := form.bankName,
    bankCode := form.bankCode, isVerified := false, isPrimary := false, code := some code,
    deadline := some deadline, createdAt := now, updatedAt := now }

/-- An account that waits, with new names and a new code. -/
def refreshed (a : Account) (form : AccountForm) (code : String) (deadline now : Instant) : Account :=
  { a with holder := form.holder, bankName := form.bankName, isVerified := false, code := some code,
           deadline := some deadline, updatedAt := now }

/-- Decides how an account is added; `id` is for a new one. -/
def decideAdd (id owner : Uuid) (form : AccountForm) (code : String) (deadline now : Instant)
    (l : Ledger) : Decision :=
  match l.registered? owner form.number form.bankCode with
  | some a =>
    if a.isVerified then .refuse (.alreadyVerified Refusal.alreadyAddedDetail) []
    -- The deadline that was read bears no offset, so the new one counts as another one whatever it is.
    else .take [.flush (Statement.changes { a with deadline := none } (refreshed a form code deadline now))]
  | none => .take [.flush [.insert (newAccount id owner form code deadline now)]]

/-- The warning that a code could not be sent. -/
def undelivered (owner account : Uuid) (f : Failure) : LogRecord :=
  { LogRecord.warning logger "Failed to deliver verification code" with
    extras := names owner account, failure := some f }

/-- Adds an account and sends a code; `minutes` is how long the code is valid. -/
def add (c : Circumstances) (courier : Courier) (owner : Owner) (form : AccountForm)
    (minutes : Option Int) (draw : Nat) (store : Store) : Outcome Issued :=
  let minutes := minutes.getD c.settings.codeMinutes
  let code := Code.ofDraw draw
  match Code.deadline? minutes c.now with
  | none => .failed store .overflow
  | some deadline =>
    let earlier := store.ledger.registered? owner.id form.number form.bankCode
    let id := (earlier.map (·.id)).getD store.nextId
    let a := store.attempt c.mishaps c.settings.databaseTimeout
      (decideAdd store.nextId owner.id form code deadline c.now)
    match a.result with
    | .error f => .ofFailedAttempt a f
    | .ok () =>
      let sent := courier owner.email code
      let issued := note "Verification code issued" owner.id id [("reused", .bool earlier.isSome)]
      let warnings := match sent.result with
        | .ok () => []
        | .error f => [undelivered owner.id id f]
      { store := a.store, log := a.log ++ [issued] ++ sent.log ++ warnings,
        handovers := [{ email := owner.email, code }], posted := sent.request.toList,
        result := .ok { id, minutes }, lasting := a.session.lasting, sent := a.session.draft.sent }

end Operation

end PayoutRegistry
