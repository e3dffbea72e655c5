import PayoutRegistry.Form.Timestamp

/-!
The bodies that answers carry. None of them has a field for a verification code or its deadline. Each can
also be read from the fields of an object, which is how answers made from foreign data are checked.
-/
namespace PayoutRegistry

open Form

/-- A token for the requests that follow. -/
structure TokenAnswer where
  token : String
  tokenType : String := "bearer"
deriving DecidableEq, Repr

namespace TokenAnswer

def read (fields : Json.Fields) : Checked TokenAnswer :=
  TokenAnswer.mk <$> field fields "token" anyText <*> fieldOr fields "token_type" "bearer" anyText

def toJson (a : TokenAnswer) : Json :=
  .object [("token", .text a.token), ("token_type", .text a.tokenType)]

end TokenAnswer

/-- A user who has just signed up. -/
structure SignupAnswer where
  userId : Uuid
  email : String
  token : String
  tokenType : String := "bearer"
deriving DecidableEq, Repr

namespace SignupAnswer

def read (fields : Json.Fields) : Checked SignupAnswer :=
  SignupAnswer.mk <$> field fields "user_id" uuid <*> field fields "email" anyText
    <*> field fields "token" anyText <*> fieldOr fields "token_type" "bearer" anyText

def toJson (a : SignupAnswer) : Json :=
  .object [("user_id", .text a.userId.text), ("email", .text a.email), ("token", .text a.token),
    ("token_type", .text a.tokenType)]

end SignupAnswer

/-- A code was issued; the answer tells only how long it is valid. -/
structure IssuedAnswer where
  id : Uuid
  expiresInMinutes : Int
  message : String := "Verification code sent to your email"
deriving DecidableEq, Repr

namespace IssuedAnswer

def read (fields : Json.Fields) : Checked IssuedAnswer :=
  IssuedAnswer.mk <$> field fields "id" uuid <*> field fields "expires_in_minutes" integer
    <*> fieldOr fields "message" "Verification code sent to your email" anyText

def toJson (a : IssuedAnswer) : Json :=
  .object [("id", .text a.id.text), ("expires_in_minutes", .int a.expiresInMinutes),
    ("message", .text a.message)]

end IssuedAnswer

/-- An account after a code was accepted. -/
structure VerifiedAnswer where
  id : Uuid
  isVerified : Bool
  isPrimary : Bool
deriving DecidableEq, Repr

namespace VerifiedAnswer

def read (fields : Json.Fields) : Checked VerifiedAnswer :=
  VerifiedAnswer.mk <$> field fields "id" uuid <*> field fields "is_verified" truth
    <*> field fields "is_primary" truth

def toJson (a : VerifiedAnswer) : Json :=
  .object [("id", .text a.id.text), ("is_verified", .bool a.isVerified),
    ("is_primary", .bool a.isPrimary)]

end VerifiedAnswer

/-- What a listing shows of an account. -/
structure AccountAnswer where
  id : Uuid
  number : String
  holder : String
  bankName : String
  bankCode : String
  isVerified : Bool
  isPrimary : Bool
  createdAt : Moment
deriving DecidableEq, Repr

namespace AccountAnswer

def read (fields : Json.Fields) : Checked AccountAnswer :=
  AccountAnswer.mk <$> field fields "id" uuid <*> field fields "account_number" anyText
    <*> field fields "account_name" anyText <*> field fields "bank_name" anyText
    <*> field fields "bank_code" anyText <*> field fields "is_verified" truth
    <*> field fields "is_primary" truth <*> field fields "created_at" moment

def toJson (a : AccountAnswer) : Json :=
  .object [("id", .text a.id.text), ("account_number", .text a.number), ("account_name", .text a.holder),
    ("bank_name", .text a.bankName), ("bank_code", .text a.bankCode), ("is_verified", .bool a.isVerified),
    ("is_primary", .bool a.isPrimary), ("created_at", .text (momentText a.createdAt))]

end AccountAnswer

/-- An account after it was made the primary one. -/
structure PrimaryAnswer where
  id : Uuid
  isPrimary : Bool
deriving DecidableEq, Repr

namespace PrimaryAnswer

def read (fields : Json.Fields) : Checked PrimaryAnswer :=
  PrimaryAnswer.mk <$> field fields "id" uuid <*> field fields "is_primary" truth

def toJson (a : PrimaryAnswer) : Json :=
  .object [("id", .text a.id.text), ("is_primary", .bool a.isPrimary)]

end PrimaryAnswer

structure MessageAnswer where
  message : String
deriving DecidableEq, Repr

namespace MessageAnswer

def read (fields : Json.Fields) : Checked MessageAnswer :=
  MessageAnswer.mk <$> field fields "message" anyText

def toJson (a : MessageAnswer) : Json := .object [("message", .text a.message)]

end MessageAnswer

/-- A bank of the directory. -/
structure BankAnswer where
  code : String
  name : String
deriving DecidableEq, Repr

namespace BankAnswer

def read (fields : Json.Fields) : Checked BankAnswer :=
  BankAnswer.mk <$> field fields "code" anyText <*> field fields "name" anyText

def toJson (a : BankAnswer) : Json := .object [("code", .text a.code), ("name", .text a.name)]

end BankAnswer

/-- Who holds an account. -/
structure HolderAnswer where
  bankCode : String
  number : String
  holder : String
deriving DecidableEq, Repr

namespace HolderAnswer

def read (fields : Json.Fields) : Checked HolderAnswer :=
  HolderAnswer.mk <$> field fields "bank_code" anyText <*> field fields "account_number" anyText
    <*> field fields "account_name" anyText

def toJson (a : HolderAnswer) : Json :=
  .object [("bank_code", .text a.bankCode), ("account_number", .text a.number),
    ("account_name", .text a.holder)]

end HolderAnswer

end PayoutRegistry
