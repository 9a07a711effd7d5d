import Accounts.Proofs.Json.Record
import Accounts.Relay.Record
/-! Messages that announce an event as it is stored: its JSON text, alone or in an envelope. Main statement: the event
is read back from such a message, and the letter from the event. -/
namespace Accounts
open Json Time

theorem Payload.ofJson?_toJson (p : Payload) : ofJson? p.toJson = some p := by
  have plain : (Value.object [("email", .string p.email), ("token", .string p.token),
      ("purpose", .string p.purpose)]).Plain := ⟨by simp, trivial, trivial, trivial, trivial⟩
  have tokens := Value.ofBytes_render_eq plain
  rw [← Value.ofText_compact] at tokens
  have members : Record.members fields (Record.vacant fields) (Value.tokensOfMembers [("email", .string p.email),
      ("token", .string p.token), ("purpose", .string p.purpose)] ++ [.closeObject]) =
      .ok ((some p.email, some p.token, some p.purpose, ()), []) := by
    refine (Record.members_comma rfl (Reader.read_map (Reader.read_text _ _))).trans ?_
    refine (Record.members_comma rfl (Reader.read_map (Reader.read_map (Reader.read_text _ _)))).trans ?_
    exact Record.members_close rfl (Reader.read_map (Reader.read_map (Reader.read_map (Reader.read_text _ _))))
  have read : fields.parse (Bytes.ofText p.toJson) = .ok (p.email, p.token, p.purpose, ()) :=
    Record.parse_of_read tokens (Record.read_object members rfl)
  simp [ofJson?, read]

namespace Relay

/-- The members of an object tell what an event is. Those for its kind and its user may be missing or null, and all
others may be anything. -/
structure Tells (event : OutboxEvent) (members : List (String × Value)) : Prop where
  id : (members.lookup "id").bind RowRecord.int? = some event.id
  payload : members.lookup "payload" = some (.string event.payload)
  status : members.lookup "status" = some (.string event.status.text)
  aggregateId : ∀ v, members.lookup "aggregate_id" = some v → v = .null ∨ (RowRecord.int? v).isSome = true
  eventType : ∀ v, members.lookup "event_type" = some v → v = .null ∨ (RowRecord.text? v).isSome = true

/-- A message that is the text of an event, or of an envelope around it. -/
inductive Announces (event : OutboxEvent) (body : Bytes) : Prop
  | record {members : List (String × Value)} (parsed : Value.parse? body = some (.object members))
      (tells : Tells event members) : Announces event body
  | envelope {members inner : List (String × Value)} (parsed : Value.parse? body = some (.object members))
      (inside : members.lookup "payload" = some (.object inner)) (tells : Tells event inner) : Announces event body

def published (event : OutboxEvent) : List (String × Value) := [
  ("id", .int event.id),
  ("aggregate_id", .int event.aggregateId),
  ("aggregate_type", .string event.aggregateType),
  ("event_type", .string event.eventType),
  ("payload", .string event.payload),
  ("status", .string event.status.text),
  ("created_at", .string (storedInstant event.createdAt)),
  ("updated_at", .string (storedInstant event.updatedAt))]

theorem optional_isSome {α : Type} {read : Value → Option α} {o : Option Value}
    (fits : ∀ v, o = some v → v = .null ∨ (read v).isSome = true) : (RowRecord.optional read o).isSome = true := by
  cases o with
  | none => rfl
  | some v =>
    rcases fits v rfl with rfl | known
    · rfl
    · obtain ⟨a, read⟩ := Option.isSome_iff_exists.1 known
      cases v with
      | null => rfl
      | _ => simp [RowRecord.optional, read]

theorem RowRecord.ofValue?_of_lookup {members : List (String × Value)} {n : Int} {payload : String}
    (id : (members.lookup "id").bind int? = some n) (stored : members.lookup "payload" = some (.string payload))
    (status : ∀ v, members.lookup "status" = some v → v = .null ∨ (text? v).isSome = true)
    (aggregateId : ∀ v, members.lookup "aggregate_id" = some v → v = .null ∨ (int? v).isSome = true)
    (eventType : ∀ v, members.lookup "event_type" = some v → v = .null ∨ (text? v).isSome = true) :
    ∃ r, ofValue? (.object members) = some r ∧ r.id = n ∧ r.payload = payload ∧
      optional text? (members.lookup "status") = some r.status := by
  obtain ⟨v, found, id⟩ := Option.bind_eq_some_iff.1 id
  obtain ⟨status, known⟩ := Option.isSome_iff_exists.1 (optional_isSome status)
  obtain ⟨aggregateId, aggregate⟩ := Option.isSome_iff_exists.1 (optional_isSome aggregateId)
  obtain ⟨eventType, type⟩ := Option.isSome_iff_exists.1 (optional_isSome eventType)
  have anything (o : Option Value) : (optional some o).isSome = true := optional_isSome fun _ _ => .inr rfl
  obtain ⟨created, createdAt⟩ := Option.isSome_iff_exists.1 (anything (members.lookup "created_at"))
  obtain ⟨updated, updatedAt⟩ := Option.isSome_iff_exists.1 (anything (members.lookup "updated_at"))
  refine ⟨⟨n, payload, status, aggregateId, eventType, created, updated⟩, ?_, rfl, rfl, known⟩
  simp only [ofValue?, ofFields?, found, stored, known, aggregate, type, createdAt, updatedAt, Option.elim, text?,
    Option.bind_eq_bind, Option.bind_some, id]
  rfl

theorem Tells.ofValue? {event : OutboxEvent} {members : List (String × Value)} (h : Tells event members) :
    ∃ r, RowRecord.ofValue? (.object members) = some r ∧ r.id = event.id ∧ r.payload = event.payload ∧
      r.status = some event.status.text := by
  have status (v : Value) (found : members.lookup "status" = some v) :
      v = .null ∨ (RowRecord.text? v).isSome = true := by
    obtain rfl : .string event.status.text = v := Option.some.inj (h.status.symm.trans found)
    exact .inr rfl
  obtain ⟨r, read, id, payload, known⟩ :=
    RowRecord.ofValue?_of_lookup h.id h.payload status h.aggregateId h.eventType
  rw [h.status] at known
  exact ⟨r, read, id, payload, (Option.some.inj known).symm⟩

theorem Announces.parse? {event : OutboxEvent} {body : Bytes} (h : Announces event body) :
    ∃ r, RowRecord.parse? body = some r ∧ r.id = event.id ∧ r.payload = event.payload ∧
      r.announcedStatus = some event.status := by
  have known {r : RowRecord} (same : r.status = some event.status.text) : r.announcedStatus = some event.status := by
    rw [RowRecord.announcedStatus, same]
    exact OutboxStatus.ofText?_text event.status
  cases h with
  | record parsed tells =>
    obtain ⟨r, read, id, payload, status⟩ := tells.ofValue?
    refine ⟨r, ?_, id, payload, known status⟩
    rw [RowRecord.parse?, parsed, Option.bind_some, RowRecord.unwrap, Value.get?, tells.payload]
    exact read
  | envelope parsed inside tells =>
    obtain ⟨r, read, id, payload, status⟩ := tells.ofValue?
    refine ⟨r, ?_, id, payload, known status⟩
    rw [RowRecord.parse?, parsed, Option.bind_some, RowRecord.unwrap, Value.get?, inside]
    exact read

/-! ### Published events -/

def Fits (n : Int) : Prop := -9223372036854775808 ≤ n ∧ n ≤ 9223372036854775807

theorem int?_int {n : Int} (fits : Fits n) : RowRecord.int? (.int n) = some n := if_pos fits.2

theorem depth_published (event : OutboxEvent) : (Value.object (published event)).depth = 1 := rfl

section
variable {event : OutboxEvent} (id : Fits event.id) (aggregateId : Fits event.aggregateId)
include id aggregateId

theorem tells_published : Tells event (published event) where
  id := int?_int id
  payload := rfl
  status := rfl
  aggregateId v found := by
    obtain rfl : Value.int event.aggregateId = v := Option.some.inj found
    exact .inr (by rw [int?_int aggregateId]; rfl)
  eventType v found := by
    obtain rfl : Value.string event.eventType = v := Option.some.inj found
    exact .inr rfl

theorem plainMembers_published : Value.PlainMembers (published event) := by
  have inRange {n : Int} (fits : Fits n) : InRange n := ⟨fits.1, Int.le_trans fits.2 (by decide)⟩
  exact ⟨inRange id, inRange aggregateId, trivial, trivial, trivial, trivial, trivial, trivial, trivial⟩

theorem plain_published : (Value.object (published event)).Plain :=
  ⟨by simp [published], plainMembers_published id aggregateId⟩

theorem announces_published : Announces event (Value.object (published event)).render :=
  .record (Value.parse?_render (plain_published id aggregateId) (depth_published event ▸ by decide))
    (tells_published id aggregateId)

theorem announces_envelope {schema : Value} (plain : schema.Plain) (deep : schema.depth < Value.maxDepth) :
    Announces event (Value.object [("schema", schema), ("payload", .object (published event))]).render := by
  have whole : (Value.object [("schema", schema), ("payload", .object (published event))]).Plain :=
    ⟨by simp, plain, plain_published id aggregateId, trivial⟩
  have depth : (Value.object [("schema", schema), ("payload", .object (published event))]).depth ≤ Value.maxDepth := by
    have inner := depth_published event
    simp only [Value.depth, Value.depthOfMembers, Value.maxDepth] at inner deep ⊢
    omega
  exact .envelope (Value.parse?_render whole depth) rfl (tells_published id aggregateId)

end
end Relay
end Accounts
