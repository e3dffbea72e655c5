import PayoutRegistry.Log.Basic
import PayoutRegistry.Text.Utf8

/-!
Exchanges with other services: one request goes out, and an answer or a fault comes back.
-/
namespace PayoutRegistry

/-- A request to another service. The query is kept apart from the address. -/
structure Outgoing where
  method : String
  address : String
  query : List (String × String)
  accept : String
  authorization : Option String
  mailToken : Option String
  body : Option Json

/-- What comes back. -/
inductive Reply where
  | answer (status : Nat) (body : Bytes)
  /-- The exchange broke off on the way. -/
  | fault (failure : Failure)
  /-- The request was refused before any of it was sent. -/
  | unsent (failure : Failure)

namespace Header

/-- Characters that no header can carry. -/
def unfit : List Char := ['\x00', '\n', '\r', '\x0b', '\x0c']

/-- Whether a header can carry a value: ASCII characters that are fit for it, blanks and tabs among them but not at an
end. -/
def carries (value : String) : Bool :=
  let between (c : Char) := c == ' ' || c == '\t'
  value.toList.all (fun c => c.toNat < 0x80 && !unfit.contains c) &&
    !value.toList.head?.any between && !value.toList.getLast?.any between

end Header

/-- Whether a status tells of success. -/
def isSuccess (status : Nat) : Bool := 200 ≤ status && status ≤ 299

/-- What an exchange comes to: the request, if one went out, the log and the result. -/
structure Exchange (α : Type) where
  request : Option Outgoing
  log : List LogRecord
  result : Except Failure α

namespace LogRecord

def info (logger message : String) (extras : Json.Fields) : LogRecord :=
  { logger, level := 20, message, extras, failure := none }

def warning (logger message : String) : LogRecord :=
  { logger, level := 30, message, extras := [], failure := none }

def error (logger message : String) : LogRecord :=
  { logger, level := 40, message, extras := [], failure := none }

end LogRecord

end PayoutRegistry
