import Accounts.Json.Value
import Accounts.Time.Timestamp
/-! People with an account. -/
namespace Accounts
open Json Time

/-- What a person may change about the account. -/
structure Profile where
  email : String
  name : String
  documentId : String
  birthday : Option Timestamp
  gender : Bool
  permanentAddress : String
  phoneNumber : String
  deriving DecidableEq, Repr

structure User where
  id : Int
  username : String
  profile : Profile
  verified : Bool
  verifiedAt : Option Instant
  createdAt : Instant
  updatedAt : Instant
  deriving DecidableEq, Repr

structure NewUser where
  username : String
  profile : Profile
  deriving DecidableEq, Repr

structure Credentials where
  userId : Int
  hash : String
  deriving DecidableEq, Repr

namespace User

def email (u : User) : String := u.profile.email

def toJson (u : User) : Value :=
  .object [
    ("id", .int u.id),
    ("username", .string u.username),
    ("email", .string u.profile.email),
    ("name", .string u.profile.name),
    ("document_id", .string u.profile.documentId),
    ("birthday", .ofOption (fun t => .string t.text) u.profile.birthday),
    ("gender", .bool u.profile.gender),
    ("permanent_address", .string u.profile.permanentAddress),
    ("phone_number", .string u.profile.phoneNumber),
    ("verified", .bool u.verified),
    ("verified_at", .ofOption (fun t => .string (instantText t)) u.verifiedAt),
    ("created_at", .string (instantText u.createdAt)),
    ("updated_at", .string (instantText u.updatedAt))]

end User
end Accounts
