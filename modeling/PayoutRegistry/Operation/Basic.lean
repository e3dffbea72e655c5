import PayoutRegistry.Exchange.Delivery
import PayoutRegistry.Ledger.UnitOfWork

/-!
What operations are given and what they leave behind.
-/
namespace PayoutRegistry

/-- The settings, the time, and the failures that calls to the database are given. -/
structure Circumstances where
  settings : Settings
  now : Instant
  mishaps : Mishaps

/-- Sends a code to a mail address. -/
abbrev Courier := String → String → Exchange Unit

/-- A code that was given to the courier. -/
structure Handover where
  email : String
  code : String
deriving DecidableEq, Repr

namespace Circumstances

/-- The log of the database engine, which is not that of the service: while things are being developed, it shows
each statement with the values that it writes. -/
def echo (c : Circumstances) (sent : List Statement) : List Statement :=
  if c.settings.debug then sent else []

end Circumstances

/-- What an operation leaves behind. -/
structure Outcome (α : Type) where
  /-- The store as it is seen in the session of the operation. -/
  store : Store
  log : List LogRecord
  handovers : List Handover
  posted : List Outgoing
  result : Except Failure α
  /-- The ledger as others see it. -/
  lasting : Ledger := store.ledger
  /-- The statements that the database was given. -/
  sent : List Statement := []

namespace Outcome

/-- An operation that ended before it touched the store. -/
def failed {α : Type} (store : Store) (f : Failure) : Outcome α :=
  { store, log := [], handovers := [], posted := [], result := .error f }

/-- An operation that only reads. -/
def read {α : Type} (store : Store) (a : α) : Outcome α :=
  { store, log := [], handovers := [], posted := [], result := .ok a }

/-- The outcome of an attempt that has nothing to show for it. -/
def ofFailedAttempt {α : Type} (a : Attempt Failure) (f : Failure) : Outcome α :=
  { store := a.store, log := a.log, handovers := [], posted := [], result := .error f,
    lasting := a.session.lasting, sent := a.session.draft.sent }

/-- The outcome of an attempt, with the log line that tells of its success. -/
def ofAttempt {α : Type} (a : Attempt Failure) (success : LogRecord) (result : Ledger → α) : Outcome α :=
  match a.result with
  | .error f => ofFailedAttempt a f
  | .ok () =>
    { store := a.store, log := a.log ++ [success], handovers := [], posted := [],
      result := .ok (result a.store.ledger), lasting := a.session.lasting, sent := a.session.draft.sent }

/-- The session that an operation leaves, with its result. -/
def pending {α : Type} (o : Outcome α) : Pending Failure α :=
  { session := { lasting := o.lasting, draft :=
      { ledger := o.store.ledger, serial := o.store.serial, flushes := 0, sent := o.sent } }
    result := o.result }

end Outcome

namespace Operation

def logger : String := "app.accounts"

/-- The fields by which log lines name a user and an account. -/
def names (owner account : Uuid) : Json.Fields :=
  [("user_id", .text owner.text), ("account_id", .text account.text)]

def note (message : String) (owner account : Uuid) (more : Json.Fields) : LogRecord :=
  .info logger message (names owner account ++ more)

/-- Decides on the account of a user, which has to be there. -/
def onOwned (owner id : Uuid) (decide : Account → Decision) (l : Ledger) : Decision :=
  match l.owned? owner id with
  | none => .refuse (.accountNotFound id) []
  | some a => decide a

/-- Whether an account is verified. -/
def isVerified (l : Ledger) (id : Uuid) : Bool := ((l.account? id).map (·.isVerified)).getD false

/-- Whether an account is the primary one. -/
def isPrimary (l : Ledger) (id : Uuid) : Bool := ((l.account? id).map (·.isPrimary)).getD false

end Operation

end PayoutRegistry
