import PayoutRegistry.Code
import PayoutRegistry.Operation.Basic

/-!
Verifying an account by its code. The first verified account of a user becomes the primary one. The code
is compared before its deadline is looked at, so that a wrong guess does not tell of the deadline, and it
is gone once it has served.
-/
namespace PayoutRegistry

/-- An account after verification: whether it is verified, and whether it is now the primary one. -/
structure Verified where
  id : Uuid
  isVerified : Bool
  isPrimary : Bool
deriving DecidableEq, Repr

namespace Operation

def rejected (message : String) (owner id : Uuid) (r : Refusal) : Decision :=
  .refuse r [note message owner id [("error_type", .text r.kind)]]

/-- The account without its code, verified. -/
def verified (a : Account) (now : Instant) : Account :=
  { a with isVerified := true, code := none, deadline := none, updatedAt := now }

/-- Decides on a submitted code. -/
def decideVerify (owner id : Uuid) (submitted : String) (now : Instant) (l : Ledger) : Decision :=
  onOwned owner id (fun a =>
    if a.isVerified then .refuse (.alreadyVerified Refusal.alreadyVerifiedDetail) []
    else match a.code with
      | none | some "" => .refuse .noCodeIssued []
      | some code =>
        if submitted ≠ code then rejected "Verification code mismatch" owner id .codeMismatch
        else if Code.isPast a.deadline now then
          rejected "Verification code expired" owner id
            (.codeExpired (a.deadline.map fun t => Code.minutesIn (now.since t)))
        else .take [.flush (Statement.changes a (verified a now)), .claim owner id now]) l

/-- Verifies an account by the code that was submitted. -/
def verify (c : Circumstances) (owner id : Uuid) (submitted : String) (store : Store) : Outcome Verified :=
  let a := store.attempt c.mishaps c.settings.databaseTimeout (decideVerify owner id submitted c.now)
  let primary := isPrimary a.store.ledger id
  .ofAttempt a (note "Bank account verified" owner id [("is_primary", .bool primary)])
    fun l => { id, isVerified := isVerified l id, isPrimary := isPrimary l id }

/-- Makes an account primary if it is the only verified one of a user, in a transaction of its own. -/
def claim (c : Circumstances) (owner id : Uuid) (store : Store) : Outcome Bool :=
  let p := store.carryOut c.mishaps [.claim owner id c.now]
  let (result, after) := p.commit c.mishaps 1
  { store := after, log := [], handovers := [], posted := [],
    result := result.map fun _ => isPrimary after.ledger id, sent := p.session.draft.sent }

end Operation

end PayoutRegistry
