import PayoutRegistry.EmailAddress
import PayoutRegistry.Form.Scalar

/-!
The bodies that requests carry. Each is read from the fields of an object; fields that it does not name
are ignored. Limits are counted in characters, and nothing but a mail address is changed by reading.
-/
namespace PayoutRegistry

namespace Form

def email (v : Json) : Checked String :=
  (anyText v).bind fun s =>
    match EmailAddress.ofText? s with
    | some address => .value address
    | none => .problem .badValue

end Form

open Form

/-- A new user. -/
structure SignupForm where
  email : String
  password : String
  firstName : String
  lastName : String
deriving DecidableEq, Repr

namespace SignupForm

def read (fields : Json.Fields) : Checked SignupForm :=
  SignupForm.mk <$> field fields "email" Form.email
    <*> field fields "password" (text 8 none)
    <*> field fields "first_name" (text 1 (some 100))
    <*> field fields "last_name" (text 1 (some 100))

def toJson (f : SignupForm) : Json :=
  .object [("email", .text f.email), ("password", .text f.password),
    ("first_name", .text f.firstName), ("last_name", .text f.lastName)]

end SignupForm

/-- The credentials of a user. -/
structure LoginForm where
  email : String
  password : String
deriving DecidableEq, Repr

namespace LoginForm

def read (fields : Json.Fields) : Checked LoginForm :=
  LoginForm.mk <$> field fields "email" Form.email <*> field fields "password" anyText

def toJson (f : LoginForm) : Json :=
  .object [("email", .text f.email), ("password", .text f.password)]

end LoginForm

/-- An account to add. -/
structure AccountForm where
  number : String
  holder : String
  bankName : String
  bankCode : String
deriving DecidableEq, Repr

namespace AccountForm

def read (fields : Json.Fields) : Checked AccountForm :=
  AccountForm.mk <$> field fields "account_number" (text 10 (some 50))
    <*> field fields "account_name" (text 2 (some 255))
    <*> field fields "bank_name" (text 2 (some 100))
    <*> field fields "bank_code" (text 3 (some 20))

def toJson (f : AccountForm) : Json :=
  .object [("account_number", .text f.number), ("account_name", .text f.holder),
    ("bank_name", .text f.bankName), ("bank_code", .text f.bankCode)]

end AccountForm

/-- A code that was sent, given back. -/
structure CodeForm where
  code : String
deriving DecidableEq, Repr

namespace CodeForm

def read (fields : Json.Fields) : Checked CodeForm :=
  CodeForm.mk <$> field fields "verification_code" (text 6 (some 6))

def toJson (f : CodeForm) : Json := .object [("verification_code", .text f.code)]

end CodeForm

/-- The question who holds an account. -/
structure EnquiryForm where
  bankCode : String
  number : String
deriving DecidableEq, Repr

namespace EnquiryForm

def read (fields : Json.Fields) : Checked EnquiryForm :=
  EnquiryForm.mk <$> field fields "bank_code" (digits 3) <*> field fields "account_number" (digits 10)

def toJson (f : EnquiryForm) : Json :=
  .object [("bank_code", .text f.bankCode), ("account_number", .text f.number)]

end EnquiryForm

end PayoutRegistry
