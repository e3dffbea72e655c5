import PayoutRegistry.Uuid
import PayoutRegistry.Json.Plain

/-!
Everything that can end a call without an answer.

A `Refusal` is an answer of the registry's own rules: it has an HTTP status, a stable kind that clients
may branch on, and a text. Any other `Failure` is a fault of the database, of another service or of an
argument, and carries what is known about it.
-/
namespace PayoutRegistry

inductive Refusal where
  | general (detail : String)
  | accountNotFound (id : Uuid)
  | alreadyVerified (detail : String)
  | noCodeIssued
  | codeMismatch
  | codeExpired (minutesAgo : Option Int)
  | notVerified
  | primaryUndeletable
  | transient (detail : String)
  | directoryUnavailable (detail : String)
  | duplicateEmail (email : String)
  | invalidCredentials
deriving DecidableEq, Repr

namespace Refusal

/-- The text of a refusal that was given none of its own. -/
def generalDetail : String := "An error occurred"

def alreadyVerifiedDetail : String := "Bank account is already verified"

def alreadyAddedDetail : String := "This bank account is already added and verified"

def contentionDetail : String := "The request could not be completed, please retry"

def timeoutDetail : String := "The database did not respond in time, please retry"

def status : Refusal → Nat
  | .general _ | .noCodeIssued | .codeMismatch | .codeExpired _ | .notVerified => 400
  | .invalidCredentials => 401
  | .accountNotFound _ => 404
  | .alreadyVerified _ | .primaryUndeletable | .duplicateEmail _ => 409
  | .directoryUnavailable _ => 502
  | .transient _ => 503

/-- The tag that tells clients what kind of refusal it is. -/
def kind : Refusal → String
  | .general _ => "error"
  | .accountNotFound _ => "not_found"
  | .alreadyVerified _ => "already_verified"
  | .noCodeIssued => "no_code_issued"
  | .codeMismatch => "code_mismatch"
  | .codeExpired _ => "code_expired"
  | .notVerified => "not_verified"
  | .primaryUndeletable => "primary_account_undeletable"
  | .transient _ => "transient"
  | .directoryUnavailable _ => "bank_directory_unavailable"
  | .duplicateEmail _ => "duplicate_email"
  | .invalidCredentials => "invalid_credentials"

def detail : Refusal → String
  | .general detail | .alreadyVerified detail | .transient detail | .directoryUnavailable detail => detail
  | .accountNotFound id => s!"Bank account {id.text} not found"
  | .noCodeIssued => "No verification code found. Please request a new one."
  | .codeMismatch => "Invalid verification code"
  | .codeExpired none => "Verification code has expired"
  | .codeExpired (some minutes) => s!"Verification code expired {minutes} minute(s) ago"
  | .notVerified => "Only verified bank accounts can be set as primary"
  | .primaryUndeletable =>
    "Cannot delete primary bank account. Set another account as primary first."
  | .duplicateEmail email => s!"Email {email} is already registered"
  | .invalidCredentials => "Invalid email or password"

/-- Seconds after which a client may try again, where trying again makes sense. -/
def retryAfter : Refusal → Option String
  | .transient _ => some "1"
  | _ => none

/-- The body of the answer. -/
def body (r : Refusal) : Json :=
  .object [("detail", .text r.detail), ("error_type", .text r.kind)]

/-- The name under which log lines report the refusal. -/
def name : Refusal → String
  | .general _ => "BankAPIError"
  | .accountNotFound _ => "BankAccountNotFoundError"
  | .alreadyVerified _ => "AlreadyVerifiedError"
  | .noCodeIssued => "NoCodeIssuedError"
  | .codeMismatch => "CodeMismatchError"
  | .codeExpired _ => "CodeExpiredError"
  | .notVerified => "NotVerifiedError"
  | .primaryUndeletable => "PrimaryAccountUndeletableError"
  | .transient _ => "TransientPersistenceError"
  | .directoryUnavailable _ => "BankDirectoryError"
  | .duplicateEmail _ => "DuplicateEmailError"
  | .invalidCredentials => "InvalidCredentialsError"

end Refusal

/-- How an exchange with another service can break off. -/
inductive ExchangeFault where
  | connectTimeout | readTimeout | writeTimeout | poolTimeout
  | connectError | readError | writeError | closeError
  | localProtocolError | remoteProtocolError
  | proxyError | unsupportedProtocol | decodingError | tooManyRedirects
  | requestError | transportError | timeoutException | networkError | protocolError | httpError
  | invalidAddress | cookieConflict | streamError
deriving DecidableEq, Repr

namespace ExchangeFault

def names : List (ExchangeFault × String) :=
  [(.connectTimeout, "ConnectTimeout"), (.readTimeout, "ReadTimeout"), (.writeTimeout, "WriteTimeout"),
    (.poolTimeout, "PoolTimeout"), (.connectError, "ConnectError"), (.readError, "ReadError"),
    (.writeError, "WriteError"), (.closeError, "CloseError"),
    (.localProtocolError, "LocalProtocolError"), (.remoteProtocolError, "RemoteProtocolError"),
    (.proxyError, "ProxyError"), (.unsupportedProtocol, "UnsupportedProtocol"),
    (.decodingError, "DecodingError"), (.tooManyRedirects, "TooManyRedirects"),
    (.requestError, "RequestError"), (.transportError, "TransportError"),
    (.timeoutException, "TimeoutException"), (.networkError, "NetworkError"),
    (.protocolError, "ProtocolError"), (.httpError, "HTTPError"), (.invalidAddress, "InvalidURL"),
    (.cookieConflict, "CookieConflict"), (.streamError, "StreamError")]

def name (f : ExchangeFault) : String := (names.lookup f).getD ""

def ofName? (s : String) : Option ExchangeFault := (names.find? (·.2 == s)).map (·.1)

/-- Whether the fault arose in carrying a request or its answer. The others come from misuse. -/
def inTransit : ExchangeFault → Bool
  | .invalidAddress | .cookieConflict | .streamError => false
  | _ => true

end ExchangeFault

/-- Why a token was not accepted, or could not be made. -/
inductive TokenFault where
  /-- The token is not well formed, or its signature is not that of the key. -/
  | invalid (message : String)
  /-- A claim in the token is not acceptable. -/
  | claim (message : String)
  | expired
  /-- The token could not be signed. -/
  | unsignable (message : String)
deriving DecidableEq, Repr

namespace TokenFault

def name : TokenFault → String
  | .invalid _ => "JWTError"
  | .claim _ => "JWTClaimsError"
  | .expired => "ExpiredSignatureError"
  | .unsignable _ => "JWSError"

def message : TokenFault → String
  | .invalid m | .claim m | .unsignable m => m
  | .expired => "Signature has expired."

end TokenFault

/-- What the driver of a database says of a fault: a text, and the two codes that it may give. -/
structure DriverError where
  text : String
  sqlState : Option String := none
  pgCode : Option String := none
deriving DecidableEq, Repr

inductive Failure where
  | refusal (r : Refusal)
  /-- The caller has not shown who they are. -/
  | unauthenticated
  | timeout (message : String)
  | operational (error : DriverError)
  | integrity (error : DriverError)
  /-- Any other fault of the database. -/
  | driver (error : DriverError)
  | value (message : String)
  | runtime (message : String)
  | key (message : String)
  | mistyped (message : String)
  | overflow
  | unimplemented
  | unencodable
  | passwordTooLong
  | unknownHash
  | token (fault : TokenFault)
  | unusableKey
  | exchange (fault : ExchangeFault) (message : String)
  | rejected (status : Nat)
  /-- An answer that does not have the shape it promises. -/
  | malformedAnswer
  /-- A fault that nothing else here brings about. -/
  | other (name message : String)
deriving DecidableEq, Repr

namespace Failure

/-- The name under which log lines report the failure, without its origin. -/
def name : Failure → String
  | .refusal r => r.name
  | .unauthenticated => "HTTPException"
  | .timeout _ => "TimeoutError"
  | .operational _ => "OperationalError"
  | .integrity _ => "IntegrityError"
  | .driver _ => "DBAPIError"
  | .value _ => "ValueError"
  | .runtime _ => "RuntimeError"
  | .key _ => "KeyError"
  | .mistyped _ => "TypeError"
  | .overflow => "OverflowError"
  | .unimplemented => "NotImplementedError"
  | .unencodable => "UnicodeEncodeError"
  | .passwordTooLong => "PasswordSizeError"
  | .unknownHash => "UnknownHashError"
  | .token fault => fault.name
  | .unusableKey => "JWKError"
  | .exchange fault _ => fault.name
  | .rejected _ => "HTTPStatusError"
  | .malformedAnswer => "ResponseValidationError"
  | .other name _ => name

/-- The part of the service that a failure is named after, where it has one. -/
def origin : Failure → String
  | .refusal _ => "app.exceptions."
  | .exchange .. | .rejected _ => "httpx."
  | _ => ""

/-- The text of the failure; a missing key is shown in quotation marks. -/
def message : Failure → String
  | .refusal r => r.detail
  | .unauthenticated => "Could not validate credentials"
  | .operational e | .integrity e | .driver e => e.text
  | .timeout m | .value m | .runtime m | .mistyped m | .exchange _ m | .other _ m => m
  | .key m => Json.shownText Text.isPrintable m
  | .token fault => fault.message
  | _ => ""

/-- What the driver says, where the fault is one of the database. -/
def driverError? : Failure → Option DriverError
  | .operational e | .integrity e | .driver e => some e
  | _ => none

/-- The line that a log gives of a failure. -/
def logText (f : Failure) : String :=
  f.origin ++ f.name ++ (if f.message = "" then "" else ": " ++ f.message)

end Failure

end PayoutRegistry
