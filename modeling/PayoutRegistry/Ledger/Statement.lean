import PayoutRegistry.Ledger.Basic

/-!
Changes to the ledger, row by row. A row is taken in only if it keeps what holds of all rows: identifiers
and mail addresses are unique, a user has an account once, only a verified account is primary, and a user
has at most one primary account.
-/
namespace PayoutRegistry

inductive Statement where
  | insertUser (user : User)
  | updateUser (user : User)
  | insert (account : Account)
  /-- Writes a row in the place of the one with its identifier. -/
  | update (account : Account)
  /-- Takes the primary flag from all accounts of a user. -/
  | clearPrimary (owner : Uuid) (now : Instant)
  | remove (id : Uuid)
deriving Repr

namespace Ledger

/-- Whether two rows may stand side by side. -/
def compatible (a b : Account) : Bool :=
  a.id ≠ b.id && !(a.owner = b.owner && a.number = b.number && a.bankCode = b.bankCode) &&
    !(a.owner = b.owner && a.isPrimary && b.isPrimary)

/-- Whether a row may stand beside others. -/
def fits (a : Account) (others : List Account) : Bool :=
  (!a.isPrimary || a.isVerified) && others.all (compatible a)

def fitsUser (u : User) (others : List User) : Bool :=
  others.all fun v => u.id ≠ v.id && u.email ≠ v.email

def conflict : Failure := .integrity { text := "constraint failed" }

/-- Writes a row over the one with its identifier. -/
def replace (l : Ledger) (a : Account) : Except Failure Ledger :=
  if fits a (l.accounts.filter (·.id ≠ a.id)) then
    .ok { l with accounts := l.accounts.map fun b => if b.id = a.id then a else b }
  else .error conflict

/-- The ledger after a statement. -/
def execute (l : Ledger) : Statement → Except Failure Ledger
  | .insertUser u =>
    if fitsUser u l.users then .ok { l with users := l.users ++ [u] } else .error conflict
  | .updateUser u =>
    if fitsUser u (l.users.filter (·.id ≠ u.id)) then
      .ok { l with users := l.users.map fun v => if v.id = u.id then u else v }
    else .error conflict
  | .insert a => if fits a l.accounts then .ok { l with accounts := l.accounts ++ [a] } else .error conflict
  | .update a => l.replace a
  | .clearPrimary owner now =>
    (l.ownedBy owner).foldlM (fun l a => l.replace { a with isPrimary := false, updatedAt := now }) l
  | .remove id => .ok { l with accounts := l.accounts.filter (·.id ≠ id) }

end Ledger

namespace Statement

/-- How many serial numbers a statement uses up: one for each new row. -/
def serials : Statement → Nat
  | .insertUser _ | .insert _ => 1
  | _ => 0

/-- What a flush writes of a row that was changed: nothing, if it is what it was but for the time of its last
change. -/
def changes (old new : Account) : List Statement :=
  if { new with updatedAt := old.updatedAt } = old then [] else [.update new]

end Statement

end PayoutRegistry
