import PayoutRegistry.Gateway.Endpoint
import PayoutRegistry.Gateway.Origin

/-!
The front door: from a request and a store to a response and what it leaves behind.
-/
namespace PayoutRegistry.Gateway

/-- Serves a request whose target is known. -/
def serveTarget (s : Surroundings) (r : Request) (store : Store) : Route.Target → Served
  | .endpoint e => serve s r store e
  | .wrongMethod allowed => .only store (.detail 405 "Method Not Allowed" [("allow", allowed)])
  | .redirect path =>
    .only store
      { status := 307, headers := [("location", Route.location r.host path r.rawQuery)],
        content := .text "" }
  | .nowhere => .only store (.detail 404 "Not Found" [])

/-- Serves a request. A failure that is not told about is not marked for other origins either. -/
def handle (s : Surroundings) (r : Request) (store : Store) : Served :=
  let allowed := s.door.allowedOrigins
  match Origin.question? r with
  | some (origin, method) => .only store (Origin.preflight allowed origin method)
  | none =>
    let served := serveTarget s r store (Route.find r.method r.path.toList)
    if served.response.status = 500 then served
    else { served with response := Origin.mark allowed r served.response }

/-- What a client sees of a response: nothing of the content if it asked for the head alone. -/
def seen (r : Request) (response : Response) : Response :=
  if r.method = "HEAD" then { response with content := .text "" } else response

end PayoutRegistry.Gateway
