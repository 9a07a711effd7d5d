import Accounts.Json.Value
/-! The reasons for which a request is refused, and how each is told to the caller. -/
namespace Accounts

inductive ServiceError
  | invalidInput (detail : String)
  | userAlreadyExists
  | userNotFound
  | tokenNotFound
  | outboxEventNotFound
  | alreadyVerified
  | tokenAlreadyUsed
  | tokenExpired
  | tooFrequent
  | invalidCredentials
  | invalidToken
  | notVerified
  | forbidden
  | storageUnavailable
  | internal
  deriving DecidableEq, Repr

namespace ServiceError

/-- Every refusal; the first one with this detail. -/
def all (detail : String) : List ServiceError := [
  invalidInput detail, userAlreadyExists, userNotFound, tokenNotFound, outboxEventNotFound, alreadyVerified,
  tokenAlreadyUsed, tokenExpired, tooFrequent, invalidCredentials, invalidToken, notVerified, forbidden,
  storageUnavailable, internal]

def kind : ServiceError → String
  | invalidInput _ => "INVALID_INPUT"
  | userAlreadyExists => "USER_ALREADY_EXISTS"
  | userNotFound => "USER_NOT_FOUND"
  | tokenNotFound => "TOKEN_NOT_FOUND"
  | outboxEventNotFound => "OUTBOX_EVENT_NOT_FOUND"
  | alreadyVerified => "ALREADY_VERIFIED"
  | tokenAlreadyUsed => "TOKEN_ALREADY_USED"
  | tokenExpired => "TOKEN_EXPIRED"
  | tooFrequent => "TOO_FREQUENT"
  | invalidCredentials => "INVALID_CREDENTIALS"
  | invalidToken => "INVALID_TOKEN"
  | notVerified => "NOT_VERIFIED"
  | forbidden => "FORBIDDEN"
  | storageUnavailable => "STORAGE_UNAVAILABLE"
  | internal => "INTERNAL"

def message : ServiceError → String
  | invalidInput detail => "invalid input: " ++ detail
  | userAlreadyExists => "user already exists"
  | userNotFound => "user not found"
  | tokenNotFound => "verification token not found"
  | outboxEventNotFound => "outbox event not found"
  | alreadyVerified => "user already verified"
  | tokenAlreadyUsed => "verification token already used"
  | tokenExpired => "verification token expired"
  | tooFrequent => "verification requested too frequently"
  | invalidCredentials => "invalid credentials"
  | invalidToken => "invalid token"
  | notVerified => "user not verified"
  | forbidden => "forbidden"
  | storageUnavailable => "storage unavailable"
  | internal => "internal error"

def status : ServiceError → Nat
  | invalidInput _ => 400
  | userAlreadyExists | alreadyVerified | tokenAlreadyUsed => 409
  | userNotFound | tokenNotFound | outboxEventNotFound => 404
  | tokenExpired => 410
  | tooFrequent => 429
  | invalidCredentials | invalidToken => 401
  | notVerified | forbidden => 403
  | storageUnavailable => 503
  | internal => 500

def body (e : ServiceError) : Json.Value :=
  .object [("kind", .string e.kind), ("message", .string e.message)]

end ServiceError
end Accounts
