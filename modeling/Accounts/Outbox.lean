import Accounts.Verification
/-! The outbox: events that wait to be sent, and how each ended. -/
namespace Accounts
open Time

inductive OutboxStatus
  | pending
  | processed
  | failed
  deriving DecidableEq, Repr

namespace OutboxStatus

def all : List OutboxStatus := [pending, processed, failed]

def text : OutboxStatus → String
  | pending => "pending"
  | processed => "processed"
  | failed => "failed"

def ofText? (s : String) : Option OutboxStatus :=
  if s = "pending" then some pending
  else if s = "processed" then some processed
  else if s = "failed" then some failed
  else none

theorem ofText?_text (s : OutboxStatus) : ofText? s.text = some s := by cases s <;> rfl

def isTerminal (s : OutboxStatus) : Bool := s ≠ pending

/-- A text that holds one status as JSON. -/
def ofJson? (raw : String) : Option OutboxStatus :=
  ((Json.Reader.choice ofText?).parse (Bytes.ofText raw)).toOption

/-- A status changes once, from pending to a terminal one. -/
def canBecome (s next : OutboxStatus) : Bool := s = pending && next.isTerminal

theorem canBecome_iff {s next : OutboxStatus} : s.canBecome next = true ↔ s = pending ∧ next ≠ pending := by
  simp [canBecome, isTerminal]

end OutboxStatus

structure NewEvent where
  aggregateType : String
  eventType : String
  payload : String
  deriving DecidableEq, Repr

def NewEvent.verification (p : Payload) (purpose : Purpose) : NewEvent :=
  ⟨"user", purpose.eventType, p.toJson⟩

structure OutboxEvent where
  id : Int
  aggregateId : Int
  aggregateType : String
  eventType : String
  payload : String
  status : OutboxStatus
  createdAt : Instant
  updatedAt : Instant
  processedAt : Option Instant
  deriving DecidableEq, Repr

end Accounts
