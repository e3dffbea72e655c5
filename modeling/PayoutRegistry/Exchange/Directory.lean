import PayoutRegistry.Exchange.Address
import PayoutRegistry.Exchange.Basic
import PayoutRegistry.Settings.Basic
import PayoutRegistry.Json.Reader

/-!
The bank directory: an outside service that lists the banks of a country and tells who holds an account.
Every answer is an object with the answer proper under `data`; what cannot be used is refused as a whole,
but an entry of the bank list that cannot be used is left out by itself.
-/
namespace PayoutRegistry

/-- A bank as the directory gives it; the name is passed on as it came. -/
structure Bank where
  code : String
  name : Json

structure Directory where
  /-- The address without slashes at its end. -/
  address : String
  key : Option String
  /-- Seconds that a request may take. -/
  timeout : Binary64

namespace Directory

def logger : String := "app.directory"

def make (address : String) (key : Option String) (timeout : Binary64) : Directory :=
  { address := String.ofList (Text.dropEndWhile (· == '/') address.toList), key, timeout }

def ofSettings (s : Settings) : Directory := make s.directoryUrl s.directoryKey s.directoryTimeout

def unavailable (detail : String) : Failure := .refusal (.directoryUnavailable detail)

def malformedDetail : String := "Bank directory sent a malformed response"

/-- The header that carries the key, where there is one. -/
def authorization (d : Directory) : Option String :=
  d.key.bind fun key => if key = "" then none else some ("Bearer " ++ key)

/-- The request for a path below the address. -/
def request (d : Directory) (method path : String) (query : List (String × String)) (body : Option Json) :
    Outgoing :=
  { method, address := (WebAddress.ofText (d.address ++ path)).text, query, accept := "application/json",
    authorization := d.authorization, mailToken := none, body }

/-- What becomes of a fault on the way. -/
def onFault (method path : String) (f : Failure) : List LogRecord × Failure :=
  match f with
  | .exchange fault m =>
    if fault.inTransit then
      ([.error logger s!"Bank directory unreachable for {method} {path}: {m}"],
        unavailable "Bank directory is unavailable")
    else ([], f)
  | .value _ | .unencodable =>
    ([.error logger s!"Bank directory sent a malformed response for {method} {path}"],
      unavailable malformedDetail)
  | f => ([], f)

/-- The object that an answer carries. -/
def readAnswer (method path : String) (status : Nat) (body : Bytes) :
    List LogRecord × Except Failure Json.Fields :=
  if !isSuccess status then
    ([.error logger s!"Bank directory returned {status} for {method} {path}"],
      .error (unavailable s!"Bank directory rejected the request ({status})"))
  else match Json.ofBytes body with
    | .error _ =>
      ([.error logger s!"Bank directory sent a malformed response for {method} {path}"],
        .error (unavailable malformedDetail))
    | .ok (.object fields) => ([], .ok fields)
    | .ok _ =>
      ([.error logger s!"Bank directory sent a non-object body for {method} {path}"],
        .error (unavailable malformedDetail))

/-- Sends a request and reads the answer. A key that cannot be written as octets keeps it from being made. -/
def ask (d : Directory) (method path : String) (query : List (String × String)) (body : Option Json)
    (reply : Reply) : Exchange Json.Fields :=
  let request := d.request method path query body
  if (request.authorization.getD "").toList.all (·.toNat < 0x80) then
    match reply with
    | .answer status bytes =>
      let (log, result) := readAnswer method path status bytes
      { request := some request, log, result }
    | .fault f =>
      let (log, f) := onFault method path f
      { request := some request, log, result := .error f }
    | .unsent f =>
      let (log, f) := onFault method path f
      { request := none, log, result := .error f }
  else
    let (log, f) := onFault method path .unencodable
    { request := none, log, result := .error f }

/-- The value under the first of the keys whose value holds. -/
def firstHolding (item : Json) (keys : List String) : Option Json :=
  keys.findSome? fun key => (item.get? key).filter Json.holds

/-- The bank of an entry that has a code and a name. -/
def bank? (item : Json) : Option Bank := do
  let code ← firstHolding item ["code", "bankCode"]
  let name ← firstHolding item ["name", "bankName"]
  return { code := code.plain, name }

/-- The banks of an answer. -/
def banks (fields : Json.Fields) : Except Failure (List Bank) :=
  let data := (Json.Fields.get? fields "data").getD .null
  if !data.holds then .ok []
  else match data with
    | .list items => .ok (items.filterMap bank?)
    | _ => .error (unavailable "Bank directory sent a malformed bank list")

/-- The holder's name of an answer. -/
def holder (fields : Json.Fields) : Except Failure Json :=
  match firstHolding ((Json.Fields.get? fields "data").getD .null) ["accountName", "account_name"] with
  | some name => .ok name
  | none => .error (unavailable "Could not resolve the account name")

/-- The banks of a country. -/
def listBanks (d : Directory) (country : String) (reply : Reply) : Exchange (List Bank) :=
  let e := d.ask "GET" "/accounts/banks" [("country", country)] none reply
  { e with result := e.result.bind banks }

/-- The name of the holder of an account. -/
def resolve (d : Directory) (bankCode number : String) (reply : Reply) : Exchange Json :=
  let e := d.ask "POST" "/accounts/transfer/name-enquiry" []
    (some (.object [("bankCode", .text bankCode), ("accountNumber", .text number)])) reply
  { e with result := e.result.bind holder }

end Directory

end PayoutRegistry
