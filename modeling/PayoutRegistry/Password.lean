import PayoutRegistry.Failure
import PayoutRegistry.Base64Url

/-!
Passwords are never stored, only hashes of them. Of a hash that was made here one fact matters: it tells
whether a password is the one it was made from. A hash that came from elsewhere is a text, which may or
may not be in the form of such hashes.
-/
namespace PayoutRegistry

/-- What is stored in place of a password. -/
inductive PasswordHash where
  /-- The salted hash of the password. -/
  | made (password : String)
  | foreign (text : String)
deriving DecidableEq, Repr

namespace Password

/-- The most characters of a password that can be hashed. -/
def maxLength : Nat := 4096

/-- How hashes are made: the algorithm, its version and its costs. -/
def scheme : String := "$argon2id$v=19$m=65536,t=3,p=4"

def hash (password : String) : Except Failure PasswordHash :=
  if maxLength < password.length then .error .passwordTooLong else .ok (.made password)

/-! ### Hashes from elsewhere -/

/-- The rest of a text after the marks of the algorithm, and the variant that they name. -/
def variant? (cs : List Char) : Option (String × List Char) :=
  match Json.afterWord? "$argon2".toList cs with
  | none => none
  | some rest =>
    match rest.span Char.isLower with
    | ([], _) => none
    | (letters, '$' :: rest) => some (String.ofList letters, rest)
    | _ => none

/-- The number behind a letter and an equals sign. -/
def parameter? (letter : Char) (part : List Char) : Option Nat :=
  match part with
  | c :: '=' :: digits =>
    if c = letter ∧ !digits.isEmpty ∧ digits.all Char.isDigit then (String.ofList digits).toNat? else none
  | _ => none

def parts (separator : Char) (cs : List Char) : List (List Char) :=
  cs.foldr (fun c rest => if c = separator then [] :: rest else match rest with
    | part :: more => (c :: part) :: more
    | [] => [[c]]) [[]]

def isBase64 (cs : List Char) : Bool :=
  cs.all (fun c => c.isAlphanum || c == '+' || c == '/') && cs.length % 4 != 1

/-- Whether costs, salt and digest are all there and large enough. -/
def isComplete (rest : List Char) : Bool :=
  let body := match parts '$' rest with
    | version :: more => if (parameter? 'v' version).isSome then more else version :: more
    | [] => []
  match body with
  | [costs, salt, digest] =>
    match parts ',' costs with
    | [memory, time, lanes] =>
      match parameter? 'm' memory, parameter? 't' time, parameter? 'p' lanes with
      | some m, some t, some p =>
        8 * p ≤ m && 1 ≤ t && 1 ≤ p && isBase64 salt && isBase64 digest && 11 ≤ salt.length &&
          6 ≤ digest.length
      | _, _, _ => false
    | _ => false
  | _ => false

/-- Whether a password belongs to a hash. A complete hash from elsewhere belongs to no password here. -/
def verify (password : String) (stored : PasswordHash) : Except Failure Bool :=
  match stored with
  | .made chosen =>
    if maxLength < password.length then .error .passwordTooLong else .ok (password == chosen)
  | .foreign text =>
    match variant? text.toList with
    | none => .error .unknownHash
    | some (variant, rest) =>
      if maxLength < password.length then .error .passwordTooLong
      else if ["i", "d", "id"].contains variant && isComplete rest then .ok false
      else .error (.value "malformed argon2 hash")

end Password

end PayoutRegistry
