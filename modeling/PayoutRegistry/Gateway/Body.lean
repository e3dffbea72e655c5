import PayoutRegistry.Form.Scalar
import PayoutRegistry.Gateway.Message
import PayoutRegistry.Json.Reader
import PayoutRegistry.Text.Blank

/-!
Bodies of requests. A body is read as JSON if its type says so or says nothing; a body of another type is
kept as it is, and fails every form.
-/
namespace PayoutRegistry

/-- What a body turns out to be. -/
inductive Body where
  | absent
  | value (v : Json)
  /-- A body that is not said to be JSON. -/
  | other
  | malformed
  | unreadable

namespace Body

/-- Whether a type of content is JSON; what follows a semicolon does not count. -/
def isJsonType (type : String) : Bool :=
  let name := String.ofList (Text.trim (type.toList.takeWhile (· != ';')))
  match name.toLower.splitOn "/" with
  | ["application", kind] => kind == "json" || kind.endsWith "+json"
  | _ => false

def read (r : Request) : Body :=
  if r.body.isEmpty then .absent
  else
    let type := (r.header? "content-type").getD ""
    if type = "" ∨ isJsonType type then
      match Json.ofBytes r.body with
      | .ok v => .value v
      | .error .malformed => .malformed
      | .error _ => .unreadable
    else .other

/-- The response to a body that ends the request before anything else is looked at. -/
def rejection? : Body → Option Response
  | .malformed => some (.invalid [{ places := [.field "body"], problem := .notJson }])
  | .unreadable => some (.detail 400 "There was an error parsing the body" [])
  | _ => none

/-- The form that a body fills in. -/
def fill {α : Type} (form : Json.Fields → Checked α) (b : Body) : Checked α :=
  (match b with
    | .absent => .problem .missing
    | .value v => Form.record .notReadable form v
    | _ => .problem .notReadable : Checked α).under (.field "body")

/-- The part of a body that an issue is about: the record that lacks a field, or the value that is wrong. -/
def part (b : Body) (issue : Issue) : Json :=
  match b, issue.places with
  | .value v, [.field "body", .field key] => if issue.problem = .missing then v else (v.get? key).getD v
  | .value v, .field "body" :: _ => v
  | _, _ => .null

/-- Whether issues can be told: an answer repeats the parts that they are about, and only finite numbers
can be written in it. -/
def canTell (b : Body) (issues : List Issue) : Bool := issues.all fun issue => (b.part issue).isFinite

end Body

end PayoutRegistry
