import PayoutRegistry.Exchange.Address
import PayoutRegistry.Failure
import PayoutRegistry.Form.Basic

/-!
Requests that come in, and the responses that go back.
-/
namespace PayoutRegistry

/-- A request: the path and the query are decoded, the body is not. -/
structure Request where
  method : String
  /-- The name under which the service was reached. -/
  host : String
  path : String
  /-- The query as it was written. -/
  rawQuery : String
  headers : List (String × String)
  body : Bytes

namespace Request

/-- A header, whose name counts in any case of letters. -/
def header? (r : Request) (name : String) : Option String :=
  (r.headers.find? fun h => h.1.toLower = name).map (·.2)

/-- The last value under a key of the query. -/
def query? (r : Request) (key : String) : Option String :=
  ((WebAddress.queryPairs r.rawQuery.toList).reverse.find? (·.1 = key)).map (·.2)

end Request

inductive Content where
  | json (value : Json)
  | text (s : String)

structure Response where
  status : Nat
  headers : List (String × String)
  content : Content

namespace Response

def json (status : Nat) (value : Json) : Response := { status, headers := [], content := .json value }

/-- An answer that only has a detail. -/
def detail (status : Nat) (s : String) (headers : List (String × String)) : Response :=
  { status, headers, content := .json (.object [("detail", .text s)]) }

/-- The answer to one who has not shown who they are. -/
def unauthenticated (s : String) : Response := detail 401 s [("www-authenticate", "Bearer")]

/-- The answer to a request that has issues. -/
def invalid (issues : List Issue) : Response :=
  json 422 (.object [("detail", .list (issues.map Issue.toJson))])

/-- The answer after a failure: refusals are told, other failures are not. -/
def ofFailure : Failure → Response
  | .refusal r =>
    { status := r.status, content := .json r.body,
      headers := r.retryAfter.toList.map fun seconds => ("retry-after", seconds) }
  | .unauthenticated => unauthenticated Failure.unauthenticated.message
  | _ => { status := 500, headers := [], content := .text "Internal Server Error" }

end Response

end PayoutRegistry
