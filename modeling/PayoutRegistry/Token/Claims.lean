import PayoutRegistry.Numeral
import PayoutRegistry.Failure
import PayoutRegistry.Time.Instant

/-!
What the claims of a token have to say before it is accepted. Times are whole seconds since the start of
1970; the first claim that is not acceptable decides.
-/
namespace PayoutRegistry.Token

/-- A claim as a whole number: fractions are cut off and texts are read. -/
def wholeSeconds (refusal : TokenFault) : Json → Except Failure Int
  | .int n => .ok n
  | .bool b => .ok (if b then 1 else 0)
  | .real x => match x with
    | .nan => .error (.token refusal)
    | .infinite _ => .error .overflow
    | x => .ok (x.truncate?.getD 0)
  | .text s => match Numeral.readInt? s with
    | some n => .ok n
    | none => .error (.token refusal)
  | .null | .list _ | .object _ => .error (.mistyped "")

def checkIssued (claims : Json.Fields) : Except Failure Unit :=
  match Json.Fields.get? claims "iat" with
  | none => .ok ()
  | some v => (wholeSeconds (.claim "Issued At claim (iat) must be an integer.") v).map fun _ => ()

def checkNotBefore (claims : Json.Fields) (now : Int) : Except Failure Unit :=
  match Json.Fields.get? claims "nbf" with
  | none => .ok ()
  | some v => do
    let start ← wholeSeconds (.claim "Not Before claim (nbf) must be an integer.") v
    if now < start then throw (.token (.claim "The token is not yet valid (nbf)"))

def checkExpiry (claims : Json.Fields) (now : Int) : Except Failure Unit :=
  match Json.Fields.get? claims "exp" with
  | none => .ok ()
  | some v => do
    let last ← wholeSeconds (.claim "Expiration Time claim (exp) must be an integer.") v
    if last < now then throw (.token .expired)

def isText : Json → Bool
  | .text _ => true
  | _ => false

/-- No audience is ever the one that is served here. -/
def checkAudience (claims : Json.Fields) : Except Failure Unit :=
  match Json.Fields.get? claims "aud" with
  | none => .ok ()
  | some (.text _) => .error (.token (.claim "Invalid audience"))
  | some (.list items) =>
    .error (.token (.claim
      (if items.all isText then "Invalid audience" else "Invalid claim format in token")))
  | some _ => .error (.token (.claim "Invalid claim format in token"))

/-- A claim that, where it is made, has to be a text. -/
def checkText (claims : Json.Fields) (key message : String) : Except Failure Unit :=
  match Json.Fields.get? claims key with
  | none | some (.text _) => .ok ()
  | some _ => .error (.token (.claim message))

def checkAccessHash (claims : Json.Fields) : Except Failure Unit :=
  match Json.Fields.get? claims "at_hash" with
  | none => .ok ()
  | some _ => .error (.token (.claim "No access_token provided to compare against at_hash claim."))

/-- All checks, at a number of seconds since the start of 1970. -/
def check (claims : Json.Fields) (now : Int) : Except Failure Unit := do
  checkIssued claims
  checkNotBefore claims now
  checkExpiry claims now
  checkAudience claims
  checkText claims "sub" "Subject must be a string."
  checkText claims "jti" "JWT ID must be a string."
  checkAccessHash claims

end PayoutRegistry.Token
