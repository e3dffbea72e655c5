import PayoutRegistry.Operation.Basic

/-!
Making another account the primary one. The flag is taken from all accounts of the user before it is given
to one, so that there are never two.
-/
namespace PayoutRegistry

/-- An account that was promoted, and whether it is now the primary one. -/
structure Promoted where
  id : Uuid
  isPrimary : Bool
deriving DecidableEq, Repr

namespace Operation

def decidePromote (owner id : Uuid) (now : Instant) (l : Ledger) : Decision :=
  onOwned owner id (fun a =>
    if a.isVerified then
      .take [.clear owner now, .flush [], .flush (Statement.changes { a with isPrimary := false }
        { a with isPrimary := true, updatedAt := now })]
    else .refuse .notVerified []) l

/-- Makes a verified account the primary one of its user. -/
def promote (c : Circumstances) (owner id : Uuid) (store : Store) : Outcome Promoted :=
  let a := store.attempt c.mishaps c.settings.databaseTimeout (decidePromote owner id c.now)
  .ofAttempt a (note "Primary bank account changed" owner id []) fun l => { id, isPrimary := isPrimary l id }

end Operation

end PayoutRegistry
