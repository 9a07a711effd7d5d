import Accounts.Program
import Accounts.Relay.Record
/-! What is done about a message: the mail is sent, unless the row was settled before, and then the row is
settled. -/
namespace Accounts.Relay
open Json

inductive Skip
  | undeliverable
  | echoed
  | settled (status : OutboxStatus)
  | missing
  deriving DecidableEq, Repr

inductive Outcome
  | processed
  | failed
  | skipped (why : Skip)
  deriving DecidableEq, Repr

def Outcome.text : Outcome → String
  | processed => "processed"
  | failed => "failed"
  | skipped _ => "skipped"

inductive HandleError
  | badRecord
  | badPayload
  | store (e : ServiceError)
  deriving DecidableEq, Repr

structure Handled where
  eventId : Int
  outcome : Outcome
  deriving DecidableEq, Repr

abbrev Handling := ExceptT HandleError Program

def ask (c : StoreCall) : Handling c.Answer :=
  ExceptT.mk (.ask (.store c) fun reply => .done (reply.mapError .store))

def send (letter : Letter) : Handling Bool := ExceptT.lift (.ask (.send letter) .done)

/-- What a message says, before the store is looked at: a letter to send, or a reason not to. -/
def letter (r : RowRecord) : Except HandleError (Letter ⊕ Skip) :=
  match Payload.ofJson? r.payload with
  | none => .error .badPayload
  | some p =>
    if !p.isDeliverable then .ok (.inr .undeliverable)
    else if r.announcedStatus.any OutboxStatus.isTerminal then .ok (.inr .echoed)
    else .ok (.inl ⟨p.email, p.token, p.purpose⟩)

/-- Sends a row's letter and settles the row. -/
def deliver (eventId : Int) (letter : Letter) : Handling Outcome := do
  match ← ask (.findEvent eventId) with
  | none => return .skipped .missing
  | some row =>
    if row.status.isTerminal then return .skipped (.settled row.status)
    if ← send letter then
      let _ ← ask (.updateStatus eventId .processed)
      return .processed
    else
      let _ ← ask (.updateStatus eventId .failed)
      return .failed

def handle (body : Bytes) : Handling Handled := do
  let some r := RowRecord.parse? body | throw .badRecord
  match ← (letter r : Except HandleError (Letter ⊕ Skip)) with
  | .inr why => return ⟨r.id, .skipped why⟩
  | .inl letter => return ⟨r.id, ← deliver r.id letter⟩

end Accounts.Relay
