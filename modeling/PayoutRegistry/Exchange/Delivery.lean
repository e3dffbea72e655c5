import PayoutRegistry.Exchange.Address
import PayoutRegistry.Exchange.Basic
import PayoutRegistry.Settings.Basic

/-!
Delivery of codes by mail. The code leaves the registry here and nowhere else.
-/
namespace PayoutRegistry

/-- The way to the service that sends mail. -/
structure Mailer where
  token : String
  address : String
  sender : String
  /-- The minutes that a mail says a code is valid. -/
  minutes : Int
  timeout : Binary64

namespace Mailer

def logger : String := "app.delivery"

def senderOf (name address : String) : String := s!"{name} <{address}>"

def ofSettings (s : Settings) (token : String) : Mailer :=
  { token, address := s.mailUrl, sender := senderOf s.senderName s.senderAddress,
    minutes := s.codeMinutes, timeout := s.mailTimeout }

def subject : String := "Verify your bank account"

def plainBody (minutes : Int) (code : String) : String :=
  s!"Your bank account verification code is: {code}. This code will expire in {minutes} minutes."

def markedBody (minutes : Int) (code : String) : String :=
  "<p>Use the code below to verify your bank account.</p>" ++
    s!"<p style=\"font-size:24px;letter-spacing:4px\"><strong>{code}</strong></p>" ++
    s!"<p>This code will expire in {minutes} minutes. " ++
    "If you did not request it, you can ignore this email.</p>"

/-- The mail that carries a code. -/
def mail (m : Mailer) (email code : String) : Json :=
  .object [("From", .text m.sender), ("To", .text email), ("Subject", .text subject),
    ("TextBody", .text (plainBody m.minutes code)), ("HtmlBody", .text (markedBody m.minutes code)),
    ("MessageStream", .text "outbound")]

def request (m : Mailer) (email code : String) : Outgoing :=
  let address := WebAddress.ofText m.address
  { method := "POST", address := address.text, query := address.query, accept := "application/json",
    authorization := none, mailToken := some m.token, body := some (m.mail email code) }

/-- Sends a code. A token that cannot be written as octets keeps the request from being made; whether a header can
carry the token, and whether there is a way to the address, is for the reply to say. -/
def send (m : Mailer) (email code : String) (reply : Reply) : Exchange Unit :=
  if m.token.toList.all (·.toNat < 0x80) then
    match reply with
    | .answer status _ =>
      if isSuccess status then
        { request := some (m.request email code),
          log := [.info logger s!"Verification email accepted by Postmark for {email}" []], result := .ok () }
      else { request := some (m.request email code), log := [], result := .error (.rejected status) }
    | .fault f => { request := some (m.request email code), log := [], result := .error f }
    | .unsent f => { request := none, log := [], result := .error f }
  else { request := none, log := [], result := .error .unencodable }

end Mailer

/-- The ways in which a code may be sent. -/
inductive Delivery where
  /-- No way is laid down. -/
  | unspecified
  /-- Nothing is sent; the log tells so, but not the code. -/
  | withheld
  | mail (mailer : Mailer)

namespace Delivery

/-- The way that the settings imply: mail needs a token. -/
def ofSettings (s : Settings) : Delivery :=
  match s.mailToken with
  | none | some "" => .withheld
  | some token => .mail (Mailer.ofSettings s token)

/-- Sends a code to an address; `reply` is what the mail service would answer. -/
def send (d : Delivery) (reply : Reply) (email code : String) : Exchange Unit :=
  match d with
  | .unspecified => { request := none, log := [], result := .error .unimplemented }
  | .withheld =>
    { request := none, result := .ok (),
      log := [.warning Mailer.logger
        s!"Email delivery is not configured; verification code for {email} was not sent"] }
  | .mail m => m.send email code reply

end Delivery

end PayoutRegistry
