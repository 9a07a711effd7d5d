import Accounts.Outbox
/-! The messages that announce outbox rows. A row comes either as itself or as the payload of an envelope. -/
namespace Accounts.Relay
open Json

/-- A row as announced. What the times look like is not looked at. -/
structure RowRecord where
  id : Int
  payload : String
  status : Option String
  aggregateId : Option Int
  eventType : Option String
  createdAt : Option Value
  updatedAt : Option Value

namespace RowRecord

/-- An integer of 64 bits with a sign. -/
def int? : Value → Option Int
  | .number (.integer n) => if n ≤ 9223372036854775807 then some n else none
  | _ => none

def text? : Value → Option String
  | .string s => some s
  | _ => none

/-- A value that may be missing or null. -/
def optional {α : Type} (read : Value → Option α) : Option Value → Option (Option α)
  | none => some none
  | some .null => some none
  | some v => (read v).map some

def ofFields? (id payload status aggregateId eventType createdAt updatedAt : Option Value) :
    Option RowRecord := do
  return {
    id := ← int? (← id)
    payload := ← payload.elim (some "") text?
    status := ← optional text? status
    aggregateId := ← optional int? aggregateId
    eventType := ← optional text? eventType
    createdAt := ← optional some createdAt
    updatedAt := ← optional some updatedAt }

/-- An object with the fields as members, or an array of them in order. -/
def ofValue? : Value → Option RowRecord
  | .object members =>
    let field (key : String) : Option Value := members.lookup key
    ofFields? (field "id") (field "payload") (field "status") (field "aggregate_id") (field "event_type")
      (field "created_at") (field "updated_at")
  | .array items =>
    if 7 < items.length then none
    else ofFields? items[0]? items[1]? items[2]? items[3]? items[4]? items[5]? items[6]?
  | _ => none

/-- The row in an envelope. Only a payload that is an object makes one. -/
def unwrap (v : Value) : Value :=
  match v.get? "payload" with
  | some (.object members) => .object members
  | _ => v

def parse? (body : Bytes) : Option RowRecord :=
  (Value.parse? body).bind fun v => ofValue? (unwrap v)

def announcedStatus (r : RowRecord) : Option OutboxStatus := r.status.bind OutboxStatus.ofText?

end RowRecord
end Accounts.Relay
