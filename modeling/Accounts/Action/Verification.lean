import Accounts.Password.Hash
import Accounts.Program
/-! Registration, and the proof of an e-mail address by a token that was mailed to it. -/
namespace Accounts.Action
open Time

def defaultTokenTtl : Span := seconds 86400

def defaultCooldown : Span := seconds 60

def tokenAlphabet : String := "ABCDEFGHIJKLMNOPQRSTUVWXYZabcdefghijklmnopqrstuvwxyz0123456789"

def tokenSize : Nat := 32

/-- A token and the event that sends it out. -/
def issueToken (email token : String) (purpose : Purpose) (now : Instant) (ttl : Span) : NewToken × NewEvent :=
  (⟨token, purpose, now, now + ttl⟩, .verification ⟨email, token, purpose.text⟩ purpose)

structure Registration where
  username : String
  password : String
  profile : Profile
  deriving DecidableEq, Repr

/-- Stores a user with a token and its event. Salt and token are drawn by the caller. -/
def register (ttl : Span) (salt : Bytes) (token : String) (r : Registration) : Action User := do
  nonempty "username" r.username
  nonempty "password" r.password
  nonempty "email" r.profile.email
  let hash ← (Password.hash salt r.password : Except ServiceError String)
  let (token, event) := issueToken r.profile.email token .register (← now) ttl
  store (.create ⟨r.username, r.profile⟩ hash token event)

/-- Whether a new token would come too soon after this one. Only resent tokens count. -/
def isTooSoon (cooldown : Span) (now : Instant) (latest : VerificationToken) : Bool :=
  latest.purpose = .resend && now - latest.createdAt < cooldown

/-- Issues another token to a user who is not verified yet. -/
def resend (ttl cooldown : Span) (token email : String) : Action Unit := do
  nonempty "email" email
  let user ← require .userNotFound (← store (.getUserByEmail email))
  if user.verified then throw .alreadyVerified
  let now ← now
  if (← store (.latestToken user.id)).any (isTooSoon cooldown now) then throw .tooFrequent
  let (token, event) := issueToken user.email token .resend now ttl
  store (.rotate user.id token event)

/-- Spends a token and marks its user as verified. -/
def verify (token : String) : Action User := do
  nonempty "token" token
  let (found, user) ← require .tokenNotFound (← store (.findToken token))
  if found.isConsumed then throw .tokenAlreadyUsed
  let now ← now
  if found.isExpired now then throw .tokenExpired
  store (.verifyWithToken found.id user.id now)

end Accounts.Action
