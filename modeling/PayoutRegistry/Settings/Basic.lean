import PayoutRegistry.Form.Scalar

/-!
The settings of the service. All but the signing key have a value to fall back on. They are read from
fields, whose values may be texts: numbers and truth values are then read from the text.
-/
namespace PayoutRegistry

structure Settings where
  appName : String
  appVersion : String
  debug : Bool
  logLevel : String
  logForm : String
  databaseUrl : String
  /-- Seconds that one unit of work may take. -/
  databaseTimeout : Binary64
  secretKey : String
  algorithm : String
  tokenMinutes : Int
  codeMinutes : Int
  /-- Without a token no mail is sent. -/
  mailToken : Option String
  mailUrl : String
  senderAddress : String
  senderName : String
  mailTimeout : Binary64
  directoryUrl : String
  directoryKey : Option String
  directoryTimeout : Binary64
  defaultCountry : String
  allowedOrigins : List String
deriving DecidableEq, Repr

namespace Settings

open Form

/-- Reads the settings from fields under their names. -/
def read (fields : Json.Fields) : Checked Settings :=
  Settings.mk
    <$> fieldOr fields "APP_NAME" "Payout Accounts API" anyText
    <*> fieldOr fields "APP_VERSION" "0.1.0" anyText
    <*> fieldOr fields "DEBUG" false truth
    <*> fieldOr fields "LOG_LEVEL" "INFO" anyText
    <*> fieldOr fields "LOG_FORMAT" "json" anyText
    <*> fieldOr fields "DATABASE_URL" "sqlite+aiosqlite:///./data/payout_accounts.db" anyText
    <*> fieldOr fields "DB_OPERATION_TIMEOUT_SECONDS" (.ofNat 10) real
    <*> field fields "SECRET_KEY" anyText
    <*> fieldOr fields "ALGORITHM" "HS256" anyText
    <*> fieldOr fields "ACCESS_TOKEN_EXPIRE_MINUTES" 30 integer
    <*> fieldOr fields "VERIFICATION_CODE_TTL_MINUTES" 15 integer
    <*> fieldOr fields "POSTMARK_SERVER_TOKEN" none optionalText
    <*> fieldOr fields "POSTMARK_API_URL" "https://api.postmarkapp.com/email" anyText
    <*> fieldOr fields "EMAIL_FROM_ADDRESS" "noreply@example.com" anyText
    <*> fieldOr fields "EMAIL_FROM_NAME" "Payouts" anyText
    <*> fieldOr fields "NOTIFIER_TIMEOUT_SECONDS" (.ofNat 10) real
    <*> fieldOr fields "BANK_DIRECTORY_BASE_URL" "https://api.sandbox.sudo.cards" anyText
    <*> fieldOr fields "BANK_DIRECTORY_API_KEY" none optionalText
    <*> fieldOr fields "BANK_DIRECTORY_TIMEOUT_SECONDS" (.ofNat 30) real
    <*> fieldOr fields "DEFAULT_BANK_COUNTRY" "NG" anyText
    <*> fieldOr fields "ALLOWED_ORIGINS" ["http://localhost:3000"] (list anyText)

def ofOption (s : Option String) : Json := (s.map Json.text).getD .null

/-- The settings under their names. -/
def fields (s : Settings) : Json.Fields :=
  [("APP_NAME", .text s.appName), ("APP_VERSION", .text s.appVersion), ("DEBUG", .bool s.debug),
    ("LOG_LEVEL", .text s.logLevel), ("LOG_FORMAT", .text s.logForm),
    ("DATABASE_URL", .text s.databaseUrl), ("DB_OPERATION_TIMEOUT_SECONDS", .real s.databaseTimeout),
    ("SECRET_KEY", .text s.secretKey), ("ALGORITHM", .text s.algorithm),
    ("ACCESS_TOKEN_EXPIRE_MINUTES", .int s.tokenMinutes),
    ("VERIFICATION_CODE_TTL_MINUTES", .int s.codeMinutes),
    ("POSTMARK_SERVER_TOKEN", ofOption s.mailToken), ("POSTMARK_API_URL", .text s.mailUrl),
    ("EMAIL_FROM_ADDRESS", .text s.senderAddress), ("EMAIL_FROM_NAME", .text s.senderName),
    ("NOTIFIER_TIMEOUT_SECONDS", .real s.mailTimeout),
    ("BANK_DIRECTORY_BASE_URL", .text s.directoryUrl),
    ("BANK_DIRECTORY_API_KEY", ofOption s.directoryKey),
    ("BANK_DIRECTORY_TIMEOUT_SECONDS", .real s.directoryTimeout),
    ("DEFAULT_BANK_COUNTRY", .text s.defaultCountry),
    ("ALLOWED_ORIGINS", .list (s.allowedOrigins.map Json.text))]

/-- The names of the settings, in order. -/
def names : List String :=
  ["APP_NAME", "APP_VERSION", "DEBUG", "LOG_LEVEL", "LOG_FORMAT", "DATABASE_URL",
    "DB_OPERATION_TIMEOUT_SECONDS", "SECRET_KEY", "ALGORITHM", "ACCESS_TOKEN_EXPIRE_MINUTES",
    "VERIFICATION_CODE_TTL_MINUTES", "POSTMARK_SERVER_TOKEN", "POSTMARK_API_URL", "EMAIL_FROM_ADDRESS",
    "EMAIL_FROM_NAME", "NOTIFIER_TIMEOUT_SECONDS", "BANK_DIRECTORY_BASE_URL", "BANK_DIRECTORY_API_KEY",
    "BANK_DIRECTORY_TIMEOUT_SECONDS", "DEFAULT_BANK_COUNTRY", "ALLOWED_ORIGINS"]

/-- The settings whose text is JSON. -/
def structured : List String := ["ALLOWED_ORIGINS"]

end Settings

end PayoutRegistry
