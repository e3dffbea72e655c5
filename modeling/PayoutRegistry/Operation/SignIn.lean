import PayoutRegistry.Form.Request
import PayoutRegistry.Operation.Basic
import PayoutRegistry.Token.Basic

/-!
Signing up, signing in, and finding the user that a token stands for. A failed sign-in does not tell
whether the mail address is known.
-/
namespace PayoutRegistry

/-- A user with a token. -/
structure SignedIn where
  user : User
  token : String
deriving DecidableEq, Repr

namespace Operation

def newUser (id : Uuid) (form : SignupForm) (password : PasswordHash) (now : Instant) : User :=
  { id, email := form.email, password, firstName := form.firstName, lastName := form.lastName,
    isActive := true, createdAt := now, updatedAt := now }

/-- The token that stands for a user. -/
def tokenFor (c : Circumstances) (user : User) : Except Failure String :=
  Token.create c.settings [("sub", .text user.id.text)] none c.now

/-- Registers a user; the row is still to be committed. -/
def signup (c : Circumstances) (form : SignupForm) (store : Store) : Pending Failure SignedIn :=
  let failed (f : Failure) : Pending Failure SignedIn := { session := store.session, result := .error f }
  if (store.ledger.userOfEmail? form.email).isSome then failed (.refusal (.duplicateEmail form.email))
  else match Password.hash form.password with
    | .error f => failed f
    | .ok password =>
      let user := newUser store.nextId form password c.now
      (store.carryOut c.mishaps [.flush [.insertUser user]]).andThen fun _ =>
        (tokenFor c user).map fun token => { user, token }

/-- Finds the user with a mail address and a password. -/
def login (c : Circumstances) (form : LoginForm) (l : Ledger) : Except Failure SignedIn := do
  match l.userOfEmail? form.email with
  | none => throw (.refusal .invalidCredentials)
  | some user =>
    if !(← Password.verify form.password user.password) then throw (.refusal .invalidCredentials)
    if !user.isActive then throw (.refusal .invalidCredentials)
    return { user, token := ← tokenFor c user }

/-- Faults of a token that mean: the caller has not shown who they are. -/
def asUnauthenticated : Failure → Failure
  | .token _ | .value _ => .unauthenticated
  | f => f

/-- The active user that a token stands for. -/
def currentUser (c : Circumstances) (token : String) (l : Ledger) : Except Failure User := do
  let id ← (Token.subject c.settings token c.now).mapError asUnauthenticated
  match l.user? id with
  | some user => if user.isActive then return user else throw .unauthenticated
  | none => throw .unauthenticated

end Operation

end PayoutRegistry
