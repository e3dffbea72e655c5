import PayoutRegistry.Base64Url
import PayoutRegistry.Json.Printer
import PayoutRegistry.Json.Reader
import PayoutRegistry.Settings.Basic
import PayoutRegistry.Token.Claims
import PayoutRegistry.Token.Key

/-!
Signed tokens: a header, claims and a signature, each in base 64, with points between them. The signature
covers the text before the last point.
-/
namespace PayoutRegistry.Token

/-- The code of a point. -/
def point : UInt8 := 0x2E

def encodeJson (fields : Json.Fields) : String :=
  Base64Url.encode (Utf8.encode ((Json.object fields).print .compact))

/-- The text that is signed. -/
def signedText (algorithm : String) (claims : Json.Fields) : String :=
  encodeJson [("alg", .text algorithm), ("typ", .text "JWT")] ++ "." ++ encodeJson claims

/-- The token of claims, signed with a secret. -/
def sign (secret algorithm : String) (claims : Json.Fields) : Except Failure String :=
  match hash? algorithm with
  | none => .error (.token (.unsignable s!"Algorithm {algorithm} not supported."))
  | some hash =>
    if looksForeign secret then .error (.token (.unsignable foreignDetail))
    else
      let text := signedText algorithm claims
      .ok (text ++ "." ++ Base64Url.encode (Digest.mac hash (Utf8.encode secret) (Utf8.encode text)))

/-- How long a token lasts, in microseconds, when `micros` was asked for. -/
def lifetime (settings : Settings) (micros : Option Int) : Int :=
  match micros with
  | none | some 0 => settings.tokenMinutes * microsPerMinute
  | some d => d

/-- The token of claims to which the end of its life is added. -/
def create (settings : Settings) (claims : Json.Fields) (micros : Option Int) (now : Instant) :
    Except Failure String :=
  match now.add? (lifetime settings micros) with
  | none => .error .overflow
  | some last =>
    sign settings.secretKey settings.algorithm (Json.Fields.set claims "exp" (.int last.unixSeconds))

/-- The same with the objects that can be written over. The claims stand at one of their places and are copied to
the end, and the end of the token's life is written over the copy. -/
def issue (settings : Settings) (objects : List Json.Fields) (place : Nat) (micros : Option Int) (now : Instant) :
    Except Failure String × List Json.Fields :=
  let copied := objects ++ [objects.getD place []]
  match now.add? (lifetime settings micros) with
  | none => (.error .overflow, copied)
  | some last =>
    let ended := copied.modify objects.length fun claims =>
      Json.Fields.set claims "exp" (.int last.unixSeconds)
    (sign settings.secretKey settings.algorithm (ended.getD objects.length []), ended)

/-! ### Reading -/

/-- The parts of a token. -/
structure Parts where
  header : Json.Fields
  payload : Bytes
  signed : Bytes
  signature : Bytes

def invalid {α : Type} (message : String) : Except Failure α := .error (.token (.invalid message))

/-- The bytes before and after the last point. -/
def splitLast? (bytes : Bytes) : Option (Bytes × Bytes) :=
  match bytes.reverse.span (· != point) with
  | (_, []) => none
  | (after, _ :: before) => some (before.reverse, after.reverse)

/-- The bytes before and after the first point. -/
def splitFirst? (bytes : Bytes) : Option (Bytes × Bytes) :=
  match bytes.span (· != point) with
  | (_, []) => none
  | (before, _ :: after) => some (before, after)

/-- The fields of the object that bytes denote; `part` names what is read. -/
def readObject (part : String) (bytes : Bytes) : Except Failure Json.Fields :=
  match (Utf8.decode? bytes).map Json.read with
  | some (.ok (.object fields)) => .ok fields
  | some (.ok _) => invalid s!"Invalid {part} string: must be a json object"
  | _ => invalid s!"Invalid {part} string:"

/-- The header of a token, whose bytes are given where they can be read. -/
def headerBytes? (token : Bytes) : Option (Bytes × Bytes × Bytes × Bytes) := do
  let (signed, signature) ← splitLast? token
  let (header, payload) ← splitFirst? signed
  return (← Base64Url.decode? header, payload, signed, signature)

def parts (token : String) : Except Failure Parts :=
  match headerBytes? (Utf8.encode token) with
  | none => invalid "Not enough segments"
  | some (header, payload, signed, signature) => do
    let header ← readObject "header" header
    let some payload := Base64Url.decode? payload | invalid "Invalid payload padding"
    let some signature := Base64Url.decode? signature | invalid "Invalid crypto padding"
    return { header, payload, signed, signature }

/-- Whether one of the keys made the signature. A key that cannot be used ends the search. -/
def matchesKey (algorithm : String) (p : Parts) : List (Option String) → Except Failure Bool
  | [] => .ok false
  | none :: _ => .error .unusableKey
  | some key :: more =>
    match hash? algorithm with
    | none => .error .unusableKey
    | some hash =>
      if looksForeign key then .error .unusableKey
      else if Digest.mac hash (Utf8.encode key) p.signed = p.signature then .ok true
      else matchesKey algorithm p more

/-- Checks that the header names the configured algorithm and that the signature is right. -/
def checkSignature (settings : Settings) (p : Parts) : Except Failure Unit := do
  let algorithm := (Json.Fields.get? p.header "alg").getD .null
  if !algorithm.holds then invalid "No algorithm was specified in the JWS header."
  match algorithm with
  | .text name =>
    if name ≠ settings.algorithm then invalid "The specified alg value is not allowed"
    if !(← matchesKey name p (candidates settings.secretKey)) then invalid "Signature verification failed."
  | _ => invalid "The specified alg value is not allowed"

/-- The claims of a token that is accepted at an instant. -/
def decode (settings : Settings) (token : String) (now : Instant) : Except Failure Json.Fields := do
  let p ← parts token
  checkSignature settings p
  let claims ← readObject "payload" p.payload
  check claims now.unixSeconds
  return claims

/-- The user that a token accepted at an instant names. -/
def subject (settings : Settings) (token : String) (now : Instant) : Except Failure Uuid := do
  let claims ← decode settings token now
  match Json.Fields.get? claims "sub" with
  | some (.text s) =>
    match Uuid.ofLoose? s with
    | some id => return id
    | none => throw (.value "badly formed hexadecimal UUID string")
  | _ => throw .unauthenticated

end PayoutRegistry.Token
