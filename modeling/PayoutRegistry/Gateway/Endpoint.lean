import PayoutRegistry.Exchange.Directory
import PayoutRegistry.Form.Answer
import PayoutRegistry.Gateway.Body
import PayoutRegistry.Gateway.Route
import PayoutRegistry.Operation.Add
import PayoutRegistry.Operation.Promote
import PayoutRegistry.Operation.Remove
import PayoutRegistry.Operation.SignIn
import PayoutRegistry.Operation.Verify
import PayoutRegistry.Text.LetterCase

/-!
The endpoints. Each reads what it needs from the request, calls one operation or asks the directory, and
puts the result into the body of an answer. Who is asking is settled before anything but the syntax of the
body is looked at. The session of a request is opened before all this; it is committed after the answer was
made, and rolled back where there was a failure instead. Requests that change nothing have nothing to commit.
-/
namespace PayoutRegistry

/-- What the front door was set up with when the service started. Settings that have changed since then
leave it as it is. -/
structure FrontDoor where
  /-- The origins whose pages may read responses. -/
  allowedOrigins : List String
  /-- The country whose banks are listed unless the request names another. -/
  defaultCountry : String
deriving DecidableEq, Repr

namespace FrontDoor

def ofSettings (s : Settings) : FrontDoor :=
  { allowedOrigins := s.allowedOrigins, defaultCountry := s.defaultCountry }

end FrontDoor

/-- All that a request meets with: the front door, the circumstances of operations, the courier, the draw
for a new code, and what the directory would answer. -/
structure Surroundings where
  door : FrontDoor
  circumstances : Circumstances
  courier : Courier
  draw : Nat
  directory : Reply

/-- What serving a request leaves behind. -/
structure Served where
  store : Store
  log : List LogRecord
  handovers : List Handover
  posted : List Outgoing
  asked : Option Outgoing
  response : Response
  /-- The statements that the database was given. -/
  sent : List Statement := []

namespace Served

/-- A response that nothing else goes with. -/
def only (store : Store) (response : Response) : Served :=
  { store, log := [], handovers := [], posted := [], asked := none, response }

/-- The outcome of an operation as a response, which does not wait for the commit, the `n`-th one, of the session. -/
def ofOutcome {α : Type} (m : Mishaps) (n : Nat) (o : Outcome α) (status : Nat) (body : α → Json) : Served :=
  { store := (o.pending.commit m n).2, log := o.log, handovers := o.handovers, posted := o.posted,
    asked := none, sent := o.sent
    response := match o.result with
      | .ok a => .json status (body a)
      | .error f => .ofFailure f }

/-- What the directory gave as a response; a value that fits no answer counts as a failure. -/
def ofExchange {α : Type} (store : Store) (e : Exchange α) (body : α → Checked Json) : Served :=
  { store, log := e.log, handovers := [], posted := [], asked := e.request,
    response := match e.result with
      | .error f => .ofFailure f
      | .ok a => match body a with
        | .value v => .json 200 v
        | .issues _ => .ofFailure .malformedAnswer }

end Served

namespace Gateway

/-- The token in the header, if it is there and of the kind that is asked for. -/
def bearer? (r : Request) : Option String :=
  (r.header? "authorization").bind fun value =>
    let (scheme, rest) := WebAddress.cut ' ' value.toList
    if (String.ofList scheme).toLower = "bearer" then some (String.ofList (Text.trim (rest.getD [])))
    else none

/-- Serves a request of a known user. -/
def withUser (s : Surroundings) (r : Request) (store : Store) (serve : User → Served) : Served :=
  match bearer? r with
  | none => .only store (.unauthenticated "Not authenticated")
  | some token =>
    match Operation.currentUser s.circumstances token store.ledger with
    | .error f => .only store (.ofFailure f)
    | .ok user => serve user

/-- Serves a request whose parts are all as they should be. -/
def withInput {α : Type} (store : Store) (body : Body) (input : Checked α) (serve : α → Served) :
    Served :=
  match input with
  | .value a => serve a
  | .issues list =>
    .only store (if body.canTell list then .invalid list else .ofFailure (.value "a number is not finite"))

/-- Serves a request with a body, once its syntax is settled. -/
def withBody (r : Request) (store : Store) (serve : Body → Served) : Served :=
  let body := Body.read r
  match body.rejection? with
  | some response => .only store response
  | none => serve body

def accountId (s : String) : Checked Uuid :=
  ((Form.uuid (.text s)).under (.field "account_id")).under (.field "path")

/-- The country that is asked for, of two characters. -/
def country (door : FrontDoor) (r : Request) : Checked String :=
  match r.query? "country" with
  | none => .value door.defaultCountry
  | some value =>
    (((Form.text 2 (some 2) (.text value)).under (.field "country")).under (.field "query"))

def accountAnswer (a : Account) : AccountAnswer :=
  { id := a.id, number := a.number, holder := a.holder, bankName := a.bankName, bankCode := a.bankCode,
    isVerified := a.isVerified, isPrimary := a.isPrimary,
    createdAt := { wall := a.createdAt, offset := none } }

def bankAnswer (b : Bank) : Checked Json :=
  (BankAnswer.read [("code", .text b.code), ("name", b.name)]).map BankAnswer.toJson

def holderAnswer (f : EnquiryForm) (name : Json) : Checked Json :=
  (HolderAnswer.read [("bank_code", .text f.bankCode), ("account_number", .text f.number),
    ("account_name", name)]).map HolderAnswer.toJson

/-- Signing up leaves its only commit to the session of the request. -/
def signup (s : Surroundings) (form : SignupForm) (store : Store) : Served :=
  let p := Operation.signup s.circumstances form store
  let after := (p.commit s.circumstances.mishaps 1).2
  let response := match p.result with
    | .ok r =>
      .json 201 (SignupAnswer.toJson { userId := r.user.id, email := r.user.email, token := r.token })
    | .error f => .ofFailure f
  { Served.only after response with sent := p.session.draft.sent }

def login (s : Surroundings) (form : LoginForm) (store : Store) : Served :=
  .only store (match Operation.login s.circumstances form store.ledger with
    | .ok r => .json 200 (TokenAnswer.toJson { token := r.token })
    | .error f => .ofFailure f)

/-- Serves a request for an endpoint. -/
def serve (s : Surroundings) (r : Request) (store : Store) : Endpoint → Served
  | .signup => withBody r store fun body => withInput store body (body.fill SignupForm.read) fun form =>
    signup s form store
  | .login => withBody r store fun body => withInput store body (body.fill LoginForm.read) fun form =>
    login s form store
  | .banks => withUser s r store fun _ => withInput store .absent (country s.door r) fun country =>
    .ofExchange store
      ((Directory.ofSettings s.circumstances.settings).listBanks (Text.uppercase country) s.directory)
      fun banks => (banks.foldr (fun b rest => (Checked.map List.cons (bankAnswer b)).seq rest)
        (.value [])).map Json.list
  | .enquiry => withBody r store fun body => withUser s r store fun _ =>
    withInput store body (body.fill EnquiryForm.read) fun form =>
      .ofExchange store
        ((Directory.ofSettings s.circumstances.settings).resolve form.bankCode form.number s.directory)
        (holderAnswer form)
  | .add => withBody r store fun body => withUser s r store fun user =>
    withInput store body (body.fill AccountForm.read) fun form =>
      .ofOutcome s.circumstances.mishaps 2 (Operation.add s.circumstances s.courier
        { id := user.id, email := user.email } form none s.draw store) 201
        fun i => IssuedAnswer.toJson { id := i.id, expiresInMinutes := i.minutes }
  | .verify account => withBody r store fun body => withUser s r store fun user =>
    withInput store body (Prod.mk <$> accountId account <*> body.fill CodeForm.read) fun (id, form) =>
      .ofOutcome s.circumstances.mishaps 2 (Operation.verify s.circumstances user.id id form.code store) 200
        fun v => VerifiedAnswer.toJson { id := v.id, isVerified := v.isVerified, isPrimary := v.isPrimary }
  | .list => withUser s r store fun user =>
    .ofOutcome s.circumstances.mishaps 1 (Operation.list s.circumstances user.id store) 200 fun accounts =>
      .list (accounts.map fun a => (accountAnswer a).toJson)
  | .promote account => withUser s r store fun user => withInput store .absent (accountId account) fun id =>
    .ofOutcome s.circumstances.mishaps 2 (Operation.promote s.circumstances user.id id store) 200 fun p =>
      PrimaryAnswer.toJson { id := p.id, isPrimary := p.isPrimary }
  | .delete account => withUser s r store fun user => withInput store .absent (accountId account) fun id =>
    .ofOutcome s.circumstances.mishaps 2 (Operation.delete s.circumstances user.id id store) 200 fun _ =>
      MessageAnswer.toJson { message := "Bank account deleted successfully" }
  | .health =>
    .only store (.json 200 (.object [("status", .text "ok"),
      ("version", .text s.circumstances.settings.appVersion)]))

end Gateway

end PayoutRegistry
