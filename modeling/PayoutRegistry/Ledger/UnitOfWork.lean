import PayoutRegistry.Guard
import PayoutRegistry.Ledger.Statement

/-!
Units of work on a store. An operation looks at the ledger and decides on steps; the steps are carried out on
a draft, in a session that keeps the ledger as it was until the draft is committed. What was not committed is
undone when the session is rolled back, be it by the guard around the work, by whoever opened the session, or
because the session is closed. Each call to the database may be given something to throw. Serial numbers that
a draft has used up stay used up.
-/
namespace PayoutRegistry

/-- A ledger, and the last serial number that was given to a row. -/
structure Store where
  ledger : Ledger
  serial : Nat
deriving DecidableEq, Repr

/-- The calls to the database that can fail. A call that fails has not done what it was made for. -/
inductive Call where
  /-- Locking and reading the rows of a user. -/
  | lock
  /-- Reading the rows of a user without locking them. -/
  | read
  /-- Counting the verified accounts of a user. -/
  | count
  /-- Taking the primary flag from the accounts of a user. -/
  | clear
  /-- Writing what has changed, for the `n`-th time. -/
  | flush (n : Nat)
  /-- Making it last, for the `n`-th time. -/
  | commit (n : Nat)
deriving DecidableEq, Repr

/-- The failures that calls are given. -/
abbrev Mishaps := Call → Option Failure

/-- No call fails. -/
def calm : Mishaps := fun _ => none

/-- A step of a unit of work. -/
inductive Step where
  | flush (statements : List Statement)
  /-- Takes the primary flag from all accounts of a user, at once. -/
  | clear (owner : Uuid) (now : Instant)
  /-- Makes the account primary if it is the only verified one of the user. -/
  | claim (owner account : Uuid) (now : Instant)
  /-- Takes out a row as the work is committed. -/
  | remove (account : Uuid)

/-- Work in progress. -/
structure Draft where
  ledger : Ledger
  serial : Nat
  flushes : Nat
  /-- The statements that the database was given, in order. -/
  sent : List Statement

/-- Work on a draft, which may end early; the draft is left as it then is. -/
abbrev Work (ε : Type) := ExceptT ε (StateM Draft)

namespace Work

variable {ε : Type}

def call (m : Call → Option ε) (c : Call) : Work ε Unit :=
  match m c with
  | some e => throw e
  | none => pure ()

variable [Throwable ε]

/-- Carries out a statement. A new row uses up a serial number even if it is not taken in. -/
def execute (s : Statement) : Work ε Unit := do
  let d ← get
  set { d with serial := d.serial + s.serials, sent := d.sent ++ [s] }
  match d.ledger.execute s with
  | .ok ledger => modify fun d => { d with ledger }
  | .error f => throw (Throwable.ofFailure f)

def flush (m : Call → Option ε) (statements : List Statement) : Work ε Unit := do
  let n := (← get).flushes + 1
  modify fun d => { d with flushes := n }
  call m (.flush n)
  statements.forM execute

/-- Takes the primary flag from all accounts of a user. -/
def clear (m : Call → Option ε) (owner : Uuid) (now : Instant) : Work ε Unit := do
  call m .clear
  execute (.clearPrimary owner now)

/-- Makes an account primary if it is the only verified one of the user. -/
def claim (m : Call → Option ε) (owner account : Uuid) (now : Instant) : Work ε Unit := do
  call m .count
  let ledger := (← get).ledger
  if ledger.verifiedCount owner = 1 then
    match ledger.account? account with
    | some a => flush m (Statement.changes a { a with isPrimary := true, updatedAt := now })
    | none => pure ()

def step (m : Call → Option ε) : Step → Work ε Unit
  | .flush statements => flush m statements
  | .clear owner now => clear m owner now
  | .claim owner account now => claim m owner account now
  | .remove account => execute (.remove account)

end Work

/-- A session with the database: the ledger as others see it, and the draft of another one. -/
structure Session where
  lasting : Ledger
  draft : Draft

namespace Session

/-- The store as it is seen in the session. -/
def store (s : Session) : Store := { ledger := s.draft.ledger, serial := s.draft.serial }

def commit (s : Session) : Session := { s with lasting := s.draft.ledger }

def rollback (s : Session) : Session := { s with draft := { s.draft with ledger := s.lasting } }

end Session

namespace Store

def empty : Store := { ledger := .empty, serial := 0 }

/-- The identifier that the next row gets. -/
def nextId (s : Store) : Uuid := .ofSerial (s.serial + 1)

/-- A session in which nothing was done. -/
def session (s : Store) : Session :=
  { lasting := s.ledger, draft := { ledger := s.ledger, serial := s.serial, flushes := 0, sent := [] } }

end Store

/-- Work that was done in a session. -/
structure Pending (ε α : Type) where
  session : Session
  result : Except ε α

namespace Pending

variable {ε α β : Type}

/-- The store with the work. -/
def done (p : Pending ε α) : Store := p.session.store

/-- Makes the work last, by the `n`-th commit; after a failure it does not come to that. -/
def committed (p : Pending ε α) (m : Call → Option ε) (n : Nat) : Pending ε α :=
  match p.result, m (.commit n) with
  | .error _, _ => p
  | .ok _, some e => { p with result := .error e }
  | .ok _, none => { p with session := p.session.commit }

/-- The unit of work that opens a session for others: it makes their work last, and rolls it back when anything
goes wrong. -/
def commit (p : Pending ε α) (m : Call → Option ε) (n : Nat) : Except ε α × Store :=
  let q := p.committed m n
  match q.result with
  | .ok a => (.ok a, q.session.store)
  | .error e => (.error e, q.session.rollback.store)

/-- Goes on from the result. -/
def andThen (p : Pending ε α) (f : α → Except ε β) : Pending ε β :=
  { session := p.session, result := p.result.bind f }

end Pending

namespace Store

variable {ε : Type} [Throwable ε]

/-- Carries out steps, without committing them. -/
def carryOut (s : Store) (m : Call → Option ε) (steps : List Step) : Pending ε Unit :=
  let (result, draft) :=
    ((steps.forM (Work.step m) : Work ε Unit) s.session.draft : Except ε Unit × Draft)
  { session := { s.session with draft }, result }

/-- Carries out steps and commits them. -/
def run (s : Store) (m : Call → Option ε) (steps : List Step) : Except ε Unit × Store :=
  (s.carryOut m steps).commit m 1

end Store

/-- What an operation decides on: log lines, and the steps to take unless it refuses. -/
structure Decision where
  log : List LogRecord
  verdict : Except Refusal (List Step)

namespace Decision

def refuse (r : Refusal) (log : List LogRecord) : Decision := { log, verdict := .error r }

def take (steps : List Step) : Decision := { log := [], verdict := .ok steps }

end Decision

/-- What a guarded unit of work leaves behind. Its session is still open. -/
structure Attempt (ε : Type) where
  session : Session
  log : List LogRecord
  result : Except ε Unit

namespace Attempt

variable {ε : Type}

/-- The store as it is seen in the session. Whoever opened the session may still make it last. -/
def store (a : Attempt ε) : Store := a.session.store

/-- The store when the session is closed, by which it is rolled back. -/
def closed (a : Attempt ε) : Store := a.session.rollback.store

end Attempt

section Guarding

variable {ε : Type} [Throwable ε]

/-- Guards work that was done in a session: the session is rolled back as often as the guard says. -/
def Pending.guarded (p : Pending ε Unit) (limit : Binary64) (log : List LogRecord) : Attempt ε :=
  let g := PayoutRegistry.guarded limit p.result
  { session := g.rollbacks.repeat Session.rollback p.session, log := log ++ g.log, result := g.result }

namespace Store

/-- What is guarded in an attempt: the rows of a user are locked, a decision is made, carried out and committed. -/
def body (s : Store) (m : Call → Option ε) (decide : Ledger → Decision) : List LogRecord × Pending ε Unit :=
  let decision := decide s.ledger
  match m .lock, decision.verdict with
  | some e, _ => ([], { session := s.session, result := .error e })
  | none, .error r =>
    (decision.log, { session := s.session, result := .error (Throwable.ofFailure (.refusal r)) })
  | none, .ok steps => (decision.log, (s.carryOut m steps).committed m 1)

/-- A guarded unit of work. -/
def attempt (s : Store) (m : Call → Option ε) (limit : Binary64) (decide : Ledger → Decision) : Attempt ε :=
  let (log, p) := s.body m decide
  p.guarded limit log

/-- A guarded unit of work whose time is up while its commit is under way and takes effect all the same. -/
def overtaken (s : Store) (m : Call → Option ε) (limit : Binary64) (decide : Ledger → Decision) : Attempt ε :=
  let (log, p) := s.body m decide
  (p.andThen fun _ => .error (Throwable.ofFailure (.timeout ""))).guarded limit log

end Store

end Guarding

end PayoutRegistry
