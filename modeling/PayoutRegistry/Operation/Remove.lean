import PayoutRegistry.Operation.Basic

/-!
Listing accounts, and deleting them. The primary account stays until another one takes its place.
-/
namespace PayoutRegistry.Operation

/-- The accounts of a user, the primary one first and then from new to old. Nothing guards the reading, and nothing
is there to be undone. -/
def list (c : Circumstances) (owner : Uuid) (store : Store) : Outcome (List Account) :=
  match c.mishaps .read with
  | some f => .failed store f
  | none => .read store (store.ledger.listing owner)

/-- Decides on deletion. The row goes when the work is committed, and nothing is written before that. -/
def decideDelete (owner id : Uuid) (l : Ledger) : Decision :=
  onOwned owner id (fun a =>
    if a.isPrimary then .refuse .primaryUndeletable [] else .take [.remove id]) l

/-- Deletes an account that is not the primary one. -/
def delete (c : Circumstances) (owner id : Uuid) (store : Store) : Outcome Unit :=
  let a := store.attempt c.mishaps c.settings.databaseTimeout (decideDelete owner id)
  .ofAttempt a (note "Bank account deleted" owner id []) fun _ => ()

end PayoutRegistry.Operation
