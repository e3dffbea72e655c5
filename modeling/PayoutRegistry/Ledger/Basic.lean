import PayoutRegistry.Password
import PayoutRegistry.Time.Moment
import PayoutRegistry.Uuid

/-!
What the registry keeps: users, and the bank accounts they have registered. Rows stand in the order in
which they were put in.
-/
namespace PayoutRegistry

/-- A user, who owns accounts and receives codes by mail. -/
structure User where
  id : Uuid
  email : String
  password : PasswordHash
  firstName : String
  lastName : String
  isActive : Bool
  createdAt : Instant
  updatedAt : Instant
deriving DecidableEq, Repr

/-- A bank account that is to receive payouts. The code and its deadline are there only while the account
waits to be verified. -/
structure Account where
  id : Uuid
  owner : Uuid
  number : String
  holder : String
  bankName : String
  bankCode : String
  isVerified : Bool
  isPrimary : Bool
  code : Option String
  deadline : Option Instant
  createdAt : Instant
  updatedAt : Instant
deriving DecidableEq, Repr

structure Ledger where
  users : List User
  accounts : List Account
deriving DecidableEq, Repr

namespace Ledger

def empty : Ledger := { users := [], accounts := [] }

def user? (l : Ledger) (id : Uuid) : Option User := l.users.find? (·.id = id)

def userOfEmail? (l : Ledger) (email : String) : Option User := l.users.find? (·.email = email)

/-- The accounts of a user. -/
def ownedBy (l : Ledger) (owner : Uuid) : List Account := l.accounts.filter (·.owner = owner)

/-- The account with an identifier, if the user owns it. -/
def owned? (l : Ledger) (owner id : Uuid) : Option Account := (l.ownedBy owner).find? (·.id = id)

/-- The user's account with a number at a bank. -/
def registered? (l : Ledger) (owner : Uuid) (number bankCode : String) : Option Account :=
  (l.ownedBy owner).find? fun a => a.number = number ∧ a.bankCode = bankCode

def verifiedCount (l : Ledger) (owner : Uuid) : Nat := (l.ownedBy owner).countP (·.isVerified)

def account? (l : Ledger) (id : Uuid) : Option Account := l.accounts.find? (·.id = id)

/-- Whether an account is listed before another: the primary one first, then the one whose time is kept under the
greater text. -/
def precedes (a b : Account) : Bool :=
  if a.isPrimary = b.isPrimary then Moment.storedText b.createdAt ≤ Moment.storedText a.createdAt
  else a.isPrimary

/-- The accounts of a user as they are listed. -/
def listing (l : Ledger) (owner : Uuid) : List Account := (l.ownedBy owner).mergeSort precedes

end Ledger

end PayoutRegistry
