import PayoutRegistry.Gateway.Message

/-!
Requests that a page of another origin makes. The browser asks first what is allowed, and every response
says whether the page may read it.
-/
namespace PayoutRegistry.Origin

def methods : List String := ["DELETE", "GET", "HEAD", "OPTIONS", "PATCH", "POST", "PUT"]

/-- The headers that tell a page of an origin what it may read. -/
def headers (allowed : List String) (origin : String) : List (String × String) :=
  (if allowed.contains origin then [("access-control-allow-origin", origin)] else []) ++
    [("access-control-allow-credentials", "true")]

/-- The answer to the question whether a request with a method would be allowed. -/
def preflight (allowed : List String) (origin method : String) : Response :=
  let faults := (if allowed.contains origin then [] else ["origin"]) ++
    (if methods.contains method then [] else ["method"])
  { status := if faults.isEmpty then 200 else 400, headers := headers allowed origin,
    content := .text (if faults.isEmpty then "OK" else "Disallowed CORS " ++ ", ".intercalate faults) }

/-- The question that a request asks, if it asks one: an origin and a method. -/
def question? (r : Request) : Option (String × String) :=
  if r.method = "OPTIONS" then
    match r.header? "origin", r.header? "access-control-request-method" with
    | some origin, some method => some (origin, method)
    | _, _ => none
  else none

/-- A response with the headers for the origin of its request. -/
def mark (allowed : List String) (r : Request) (response : Response) : Response :=
  match r.header? "origin" with
  | some origin => { response with headers := response.headers ++ headers allowed origin }
  | none => response

end PayoutRegistry.Origin
