import PayoutRegistry.Gateway.Message

/-!
Which endpoint a request is for. The routes are tried in order; one whose path fits but whose method does
not tells which method is allowed. A path that only has slashes too many is redirected.
-/
namespace PayoutRegistry

/-- The things that can be asked for; an account is named as it stands in the path. -/
inductive Endpoint where
  | signup
  | login
  | banks
  | enquiry
  | add
  | verify (account : String)
  | list
  | promote (account : String)
  | delete (account : String)
  | health
deriving DecidableEq, Repr

/-- A part of a path: a word, or the place of an account. -/
inductive Segment where
  | word (s : String)
  | account
deriving DecidableEq, Repr

structure Route where
  method : String
  segments : List Segment
  endpoint : String → Endpoint

namespace Route

/-- All routes, in the order in which they are tried. -/
def all : List Route :=
  [{ method := "POST", segments := [.word "auth", .word "signup"], endpoint := fun _ => .signup },
    { method := "POST", segments := [.word "auth", .word "login"], endpoint := fun _ => .login },
    { method := "GET", segments := [.word "bank-accounts", .word "banks"], endpoint := fun _ => .banks },
    { method := "POST", segments := [.word "bank-accounts", .word "name-enquiry"],
      endpoint := fun _ => .enquiry },
    { method := "POST", segments := [.word "bank-accounts"], endpoint := fun _ => .add },
    { method := "POST", segments := [.word "bank-accounts", .account, .word "verify"], endpoint := .verify },
    { method := "GET", segments := [.word "bank-accounts"], endpoint := fun _ => .list },
    { method := "POST", segments := [.word "bank-accounts", .account, .word "set-primary"],
      endpoint := .promote },
    { method := "DELETE", segments := [.word "bank-accounts", .account], endpoint := .delete },
    { method := "GET", segments := [.word "health"], endpoint := fun _ => .health }]

/-- The account that parts of a path name where they fit; `""` where the route has no place for one. -/
def fit? : List Segment → List (List Char) → Option String
  | [], [] => some ""
  | .word s :: segments, part :: parts => if part = s.toList then fit? segments parts else none
  | .account :: segments, part :: parts =>
    if part.isEmpty then none else (fit? segments parts).map fun _ => String.ofList part
  | _, _ => none

/-- The account that a path names where it fits. A line end behind the last word does no harm. -/
def match? (r : Route) (path : List Char) : Option String :=
  match path with
  | '/' :: rest =>
    (fit? r.segments (WebAddress.splitOn '/' rest)).or
      (if rest.getLast? = some '\n' then fit? r.segments (WebAddress.splitOn '/' rest.dropLast) else none)
  | _ => none

/-- Where a request is to go. -/
inductive Target where
  | endpoint (e : Endpoint)
  | wrongMethod (allowed : String)
  | redirect (path : List Char)
  | nowhere

def find (method : String) (path : List Char) : Target :=
  let fitting := all.filterMap fun r => (r.match? path).map (r, ·)
  match fitting.find? fun f => f.1.method = method with
  | some (r, account) => .endpoint (r.endpoint account)
  | none =>
    match fitting with
    | (r, _) :: _ => .wrongMethod r.method
    | [] =>
      let other := if path.getLast? = some '/' then Text.dropEndWhile (· == '/') path else path ++ ['/']
      if path ≠ ['/'] ∧ all.any (fun r => (r.match? other).isSome) then .redirect other else .nowhere

def isLocationChar (c : Char) : Bool := c.isAlphanum || "_.-~:/%#?=@[]!$&'()*+,".toList.contains c

/-- An address in which other characters are written as octets. -/
def quoteLocation (cs : List Char) : String :=
  String.ofList (cs.flatMap fun c =>
    if isLocationChar c then [c] else (Utf8.encodeChar c).flatMap WebAddress.octetText)

/-- The address that a redirected request is to be sent to. -/
def location (host : String) (path : List Char) (rawQuery : String) : String :=
  quoteLocation (("http://" ++ host).toList ++ path ++ (if rawQuery = "" then [] else '?' :: rawQuery.toList))

end Route

end PayoutRegistry
