import Accounts.Json.Record
import Accounts.Time.Timestamp
/-! Tokens that prove an e-mail address, why they are issued, and the body of the event that sends one out. -/
namespace Accounts
open Json Time

inductive Purpose
  | register
  | resend
  deriving DecidableEq, Repr

namespace Purpose

def text : Purpose → String
  | register => "register"
  | resend => "resend"

def ofText? (s : String) : Option Purpose :=
  if s = "register" then some register else if s = "resend" then some resend else none

theorem ofText?_text (p : Purpose) : ofText? p.text = some p := by cases p <;> rfl

/-- A text that holds one purpose as JSON. -/
def ofJson? (raw : String) : Option Purpose := ((Reader.choice ofText?).parse (Bytes.ofText raw)).toOption

def eventType : Purpose → String
  | register => "user.verification.register"
  | resend => "user.verification.resend"

end Purpose

/-- What an event tells the sender of mail; the purpose may be one not known here. -/
structure Payload where
  email : String
  token : String
  purpose : String
  deriving DecidableEq, Repr

namespace Payload

def fields :=
  Record.cons (.withDefault "email" .text "") <|
  .cons (.withDefault "token" .text "") <|
  .cons (.withDefault "purpose" .text "") .nil

def toJson (p : Payload) : String :=
  (Value.object [("email", .string p.email), ("token", .string p.token),
    ("purpose", .string p.purpose)]).compact

def ofJson? (raw : String) : Option Payload :=
  match fields.parse (Bytes.ofText raw) with
  | .ok (email, token, purpose, _) => some ⟨email, token, purpose⟩
  | .error _ => none

/-- It names both a recipient and a token. -/
def isDeliverable (p : Payload) : Bool := !p.email.isEmpty && !p.token.isEmpty

end Payload

structure VerificationToken where
  id : Int
  userId : Int
  token : String
  purpose : Purpose
  expiresAt : Instant
  consumedAt : Option Instant
  createdAt : Instant
  updatedAt : Instant
  deriving DecidableEq, Repr

namespace VerificationToken

def isConsumed (t : VerificationToken) : Bool := t.consumedAt.isSome

def isExpired (t : VerificationToken) (now : Instant) : Bool := t.expiresAt < now

def isActive (t : VerificationToken) (now : Instant) : Bool := !t.isConsumed && now < t.expiresAt

def spend (now : Instant) (t : VerificationToken) : VerificationToken :=
  { t with consumedAt := some now, updatedAt := now }

theorem isActive_spend (t : VerificationToken) (now later : Instant) : (t.spend now).isActive later = false := by
  simp [isActive, isConsumed, spend]

/-- The later of two tokens; of tokens made at the same instant, the one with the greater id. -/
def later (a b : VerificationToken) : VerificationToken :=
  if a.createdAt < b.createdAt || (a.createdAt = b.createdAt && a.id ≤ b.id) then b else a

end VerificationToken

structure NewToken where
  token : String
  purpose : Purpose
  issuedAt : Instant
  expiresAt : Instant
  deriving DecidableEq, Repr

end Accounts
