import PayoutRegistry.Digest.Mac
import PayoutRegistry.Failure

/-!
Keys for signing. The secret of the service is used as it stands for making signatures. For checking them
it may also be written as JSON, and then stands for one key or several. A secret that looks like a key of
another kind of cryptography is refused.
-/
namespace PayoutRegistry.Token

/-- The hash of an algorithm that tokens may be signed with. -/
def hash? (algorithm : String) : Option Digest.Hash :=
  match algorithm with
  | "HS256" => some .sha256
  | "HS384" => some .sha384
  | "HS512" => some .sha512
  | _ => none

/-- What may be enclosed between the lines of an armoured key. -/
def armours : List String :=
  ["CERTIFICATE", "TRUSTED CERTIFICATE", "PRIVATE KEY", "PUBLIC KEY", "ENCRYPTED PRIVATE KEY",
    "OPENSSH PRIVATE KEY", "DSA PRIVATE KEY", "RSA PRIVATE KEY", "RSA PUBLIC KEY", "EC PRIVATE KEY",
    "DH PARAMETERS", "NEW CERTIFICATE REQUEST", "CERTIFICATE REQUEST", "SSH2 PUBLIC KEY",
    "SSH2 ENCRYPTED PRIVATE KEY", "X509 CRL"]

def rules : List String := ["-----", "---- "]

/-- The characters after a line that begins or ends an armour. -/
def afterRule? (word : String) (armour : String) (cs : List Char) : Option (List Char) :=
  rules.findSome? fun left => ["-----", " ----"].findSome? fun right =>
    Json.afterWord? (left ++ word ++ " " ++ armour ++ right).toList cs

def afterLineEnd? : List Char → Option (List Char)
  | '\r' :: '\n' :: rest | '\n' :: rest => some rest
  | _ => none

/-- Every end of the list, the longest first. -/
def ends (cs : List Char) : List (List Char) :=
  match cs with
  | [] => [[]]
  | c :: rest => (c :: rest) :: ends rest

/-- Whether the characters start with an armoured key. -/
def startsArmoured (cs : List Char) : Bool :=
  armours.any fun armour =>
    match (afterRule? "BEGIN" armour cs).bind afterLineEnd? with
    | some (_ :: rest) =>
      (ends rest).any fun tail => ((afterLineEnd? tail).bind (afterRule? "END" armour)).isSome
    | _ => false

/-- The kinds of key that are known by a word. -/
def wordedKinds : List String :=
  ["ssh-ed25519", "ssh-rsa", "ssh-dss", "ecdsa-sha2-nistp256", "ecdsa-sha2-nistp384", "ecdsa-sha2-nistp521"]

def certificateEnding : String := "-cert-v01@openssh.com"

/-- Whether the first of two words names a certificate. -/
def startsCertificate (cs : List Char) : Bool :=
  let (word, rest) := cs.span (fun c => !Text.isBlank c)
  let gap := rest.takeWhile (fun c => c == ' ' || c == '\t')
  certificateEnding.toList.isSuffixOf word && !gap.isEmpty &&
    (rest.drop gap.length).head?.any (fun c => !Text.isBlank c)

/-- Whether a secret looks like a key of another kind. -/
def looksForeign (secret : String) : Bool :=
  let tails := ends secret.toList
  tails.any startsArmoured || tails.any (fun cs => wordedKinds.any fun w => w.toList.isPrefixOf cs) ||
    startsCertificate secret.toList

def foreignDetail : String :=
  "The specified key is an asymmetric key or x509 certificate and should not be used as an HMAC secret."

def isJsonBlank (c : Char) : Bool := c == ' ' || c == '\t' || c == '\n' || c == '\r'

/-- A value as a key: only texts are keys. -/
def keyOf : Json → Option String
  | .text s => some s
  | _ => none

/-- The keys that a secret stands for; `none` is one that cannot be used. -/
def candidates (secret : String) : List (Option String) :=
  match Json.read secret with
  | .error _ => [some secret]
  | .ok (.int _) | .ok (.real (.finite ..)) =>
    [some (String.ofList (Text.dropEndWhile isJsonBlank (secret.toList.dropWhile isJsonBlank)))]
  | .ok (.list items) => items.map keyOf
  | .ok (.object []) => [none]
  | .ok (.object fields) => fields.map fun f => keyOf f.2
  | .ok v => [keyOf v]

end PayoutRegistry.Token
