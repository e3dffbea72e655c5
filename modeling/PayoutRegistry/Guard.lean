import PayoutRegistry.Binary64.Text
import PayoutRegistry.Exchange.Basic

/-!
The guard around a unit of work. A failure that ends the work early is undone, once. Refusals leave the guard
as they are; faults that another try may get past leave it as a refusal that says so. An interruption from
outside is no failure, and no handler of failures takes it: it goes past the guard, and the work that was
interrupted is undone when its session is closed.
-/
namespace PayoutRegistry

/-- What breaks work off from outside. -/
inductive Interruption where
  /-- Nobody waits for the work any more. -/
  | cancelled
  /-- The routine that the work runs in is closed. -/
  | closed
  /-- Whoever runs the process stops it. -/
  | stopped
  /-- The process ends itself. -/
  | exit
deriving DecidableEq, Repr

/-- What can end work early. -/
inductive Thrown where
  | failure (f : Failure)
  | interruption (i : Interruption)
deriving DecidableEq, Repr

namespace Thrown

def message : Thrown → String
  | .failure f => f.message
  | .interruption _ => ""

/-- What the driver says, where a fault of the database was thrown. -/
def driverError? : Thrown → Option DriverError
  | .failure f => f.driverError?
  | .interruption _ => none

end Thrown

/-- Work of which all that can end it early is of one kind: failures alone, or all that can be thrown. -/
class Throwable (ε : Type) where
  ofFailure : Failure → ε
  thrown : ε → Thrown
  thrown_ofFailure : ∀ f, thrown (ofFailure f) = .failure f

instance : Throwable Failure where
  ofFailure := id
  thrown := .failure
  thrown_ofFailure _ := rfl

instance : Throwable Thrown where
  ofFailure := .failure
  thrown := id
  thrown_ofFailure _ := rfl

namespace Guard

def logger : String := "app.database"

/-- Codes of a database that mean: somebody else holds what is needed. -/
def contentionCodes : List String := ["40001", "40P01", "55P03", "57014"]

/-- Whether the first code that is there and not empty is one of contention. -/
def isContention (e : DriverError) : Bool :=
  match (e.sqlState.filter (· ≠ "")).or e.pgCode with
  | some code => contentionCodes.contains code
  | none => false

/-- What can be done about something that was thrown. -/
inductive Measure where
  | rollback
  | warn (text : String)
  /-- A refusal that has this detail leaves the guard instead of what was thrown. -/
  | turn (detail : String)

/-- One way to deal with what was thrown. -/
structure Handler where
  takes : Thrown → Bool
  measures : Thrown → List Measure

/-- The ways to deal with what was thrown, of which the first that takes it is used. A fault of the database may
be taken by more than one. The last one takes every failure, and nothing else. -/
def handlers (limit : Binary64) : List Handler :=
  [{ takes := fun t => t matches .failure (.refusal _), measures := fun _ => [.rollback] },
    { takes := fun t => t matches .failure (.timeout _)
      measures := fun _ =>
        [.rollback, .warn s!"Database operation exceeded {limit.fixedText 1 false}s, rolled back",
          .turn Refusal.timeoutDetail] },
    { takes := fun t => t matches .failure (.operational _) | .failure (.integrity _)
      measures := fun t =>
        [.rollback, .warn s!"Database contention, rolled back: {t.message}", .turn Refusal.contentionDetail] },
    { takes := fun t => t.driverError?.isSome
      measures := fun t =>
        .rollback :: if t.driverError?.any isContention then
          [.warn s!"Lock or serialization conflict, rolled back: {t.message}", .turn Refusal.contentionDetail]
        else [] },
    { takes := fun t => t matches .failure _, measures := fun _ => [.rollback] }]

/-- What is done about something that was thrown. About what no handler takes, nothing is done. -/
def measures (limit : Binary64) (t : Thrown) : List Measure :=
  match (handlers limit).find? (·.takes t) with
  | some handler => handler.measures t
  | none => []

end Guard

/-- What a guarded unit of work comes to. -/
structure Guarded (ε α : Type) where
  result : Except ε α
  /-- What was turned into a refusal. -/
  cause : Option ε
  /-- How often the guard has the session rolled back. -/
  rollbacks : Nat
  log : List LogRecord

section Work

variable {ε α : Type} [Throwable ε]

/-- A measure is taken about what was thrown. -/
def Guarded.take (e : ε) (g : Guarded ε α) : Guard.Measure → Guarded ε α
  | .rollback => { g with rollbacks := g.rollbacks + 1 }
  | .warn text => { g with log := g.log ++ [.warning Guard.logger text] }
  | .turn detail =>
    { g with result := .error (Throwable.ofFailure (.refusal (.transient detail))), cause := some e }

/-- Guards a unit of work that may take `limit` seconds. -/
def guarded (limit : Binary64) (work : Except ε α) : Guarded ε α :=
  match work with
  | .ok a => { result := .ok a, cause := none, rollbacks := 0, log := [] }
  | .error e =>
    (Guard.measures limit (Throwable.thrown e)).foldl (Guarded.take e)
      { result := .error e, cause := none, rollbacks := 0, log := [] }

end Work

/-- How work goes that has a limited time: it ends by itself, or its time is up before. -/
inductive Course (α : Type) where
  | ends (result : Except Thrown α)
  | overruns
deriving Repr

namespace Course

variable {α : Type}

/-- What the work comes to. Work whose time is up is broken off, and that is a failure. -/
def result : Course α → Except Thrown α
  | .ends result => result
  | .overruns => .error (.failure (.timeout ""))

/-- Guards the work. -/
def guarded (limit : Binary64) (c : Course α) : Guarded Thrown α := PayoutRegistry.guarded limit c.result

end Course

end PayoutRegistry
