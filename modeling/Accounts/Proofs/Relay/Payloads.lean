import Accounts.Proofs.Relay.Announcement
import Accounts.Proofs.Relay.Envelopes
/-! The text in a row, itself the JSON of what is to be sent. Main statement: it is recovered from each text of the
row, and what is to be sent from it, whichever characters these hold. -/
namespace Accounts
open Json Value

namespace Relay

/-- The members of a row with this text in it. Some may be missing or null, and all others may be anything. -/
structure Carries (payload : String) (members : List (String × Value)) : Prop where
  distinct : (members.map (·.1)).Nodup
  id : ∃ v, ("id", v) ∈ members ∧ (RowRecord.int? v).isSome = true
  payload : ("payload", .string payload) ∈ members
  status : ∀ v, ("status", v) ∈ members → v = .null ∨ (RowRecord.text? v).isSome = true
  aggregateId : ∀ v, ("aggregate_id", v) ∈ members → v = .null ∨ (RowRecord.int? v).isSome = true
  eventType : ∀ v, ("event_type", v) ∈ members → v = .null ∨ (RowRecord.text? v).isSome = true

section
variable {key payload : String} {v : Value} {members : List (String × Value)}

theorem merged_of_int? (h : (RowRecord.int? v).isSome = true) : v.merged = v := by
  cases v with
  | number n => rfl
  | _ => cases h

theorem merged_of_text? (h : (RowRecord.text? v).isSome = true) : v.merged = v := by
  cases v with
  | string s => rfl
  | _ => cases h

/-- A field that may be missing or null is read whatever else is merged. -/
theorem nullable_merged {α : Type} {read : Value → Option α} (scalar : ∀ {v}, (read v).isSome = true → v.merged = v)
    (fits : ∀ v, (key, v) ∈ members → v = .null ∨ (read v).isSome = true)
    (found : (mergedMembers [] members).lookup key = some v) : v = .null ∨ (read v).isSome = true := by
  obtain ⟨w, mem, rfl⟩ := mem_of_lookup_merged found
  rcases fits w mem with rfl | known
  · exact .inl rfl
  · rw [scalar known]
    exact .inr known

theorem Carries.ofValue? (h : Carries payload members) :
    ∃ r, RowRecord.ofValue? (.object (mergedMembers [] members)) = some r ∧ r.payload = payload := by
  obtain ⟨v, mem, known⟩ := h.id
  obtain ⟨n, id⟩ := Option.isSome_iff_exists.1 known
  have storedId : (mergedMembers [] members).lookup "id" = some v := by
    rw [(only_of_nodup h.distinct mem).lookup_merged, merged_of_int? known]
  have stored : (mergedMembers [] members).lookup "payload" = some (.string payload) :=
    (only_of_nodup h.distinct h.payload).lookup_merged
  obtain ⟨r, read, -, payload, -⟩ := RowRecord.ofValue?_of_lookup (by rw [storedId, Option.bind_some, id]) stored
    (fun _ => nullable_merged merged_of_text? h.status) (fun _ => nullable_merged merged_of_int? h.aggregateId)
    (fun _ => nullable_merged merged_of_text? h.eventType)
  exact ⟨r, read, payload⟩

theorem Carries.raw (h : Carries payload members) (inner : List (String × Value)) :
    ("payload", .object inner) ∉ members := fun mem => by
  cases (only_of_nodup h.distinct h.payload).2 _ mem

end
end Relay

namespace Payload

/-- It is recovered from this message, and the text that holds it too. -/
def Recovered (p : Payload) (body : Bytes) : Prop :=
  ∃ r, Relay.RowRecord.parse? body = some r ∧ r.payload = p.toJson ∧ ofJson? r.payload = some p

theorem toJson_injective : Function.Injective toJson := fun p q same => by
  have read := ofJson?_toJson p
  rw [same, ofJson?_toJson] at read
  exact (Option.some.inj read).symm

/-- It is recovered from its text, and from each text of a row that holds that text, alone or in an envelope. -/
theorem recovered (p : Payload) : ofJson? p.toJson = some p ∧ (∀ q : Payload, q.toJson = p.toJson → q = p) ∧
    ∀ members, Relay.Carries p.toJson members →
      (∀ text, (Value.object members).Text text → p.Recovered text) ∧
      ∀ outer envelope, Relay.Wraps members outer → (Value.object outer).Text envelope → p.Recovered envelope := by
  refine ⟨ofJson?_toJson p, fun q same => toJson_injective same, fun members carries => ?_⟩
  obtain ⟨r, read, payload⟩ := carries.ofValue?
  have again : ofJson? r.payload = some p := by rw [payload, ofJson?_toJson]
  refine ⟨fun text written => ⟨r, ?_, payload, again⟩, fun outer envelope wraps written => ⟨r, ?_, payload, again⟩⟩
  · rw [Relay.RowRecord.parse?_row carries.raw carries.distinct written, read]
  · rw [Relay.RowRecord.parse?_wrapped wraps written, read]

namespace Sample

/-- A quote, a backslash, control characters and a letter beyond the first plane; and nothing at all. -/
def payload : Payload := ⟨"\"q\\\"@x.y\n", "\x00\x1f𝄞", ""⟩

def row : List (String × Value) := [("id", .int 7), ("status", .null), ("payload", .string payload.toJson)]

theorem carries : Relay.Carries payload.toJson row where
  distinct := by decide
  id := ⟨_, List.mem_cons_self, by decide⟩
  payload := by simp [row]
  status v mem := by
    simp [row] at mem
    exact .inl mem
  aggregateId v mem := by simp [row] at mem
  eventType v mem := by simp [row] at mem

theorem text_row : (Value.object row).Text (Value.object row).render :=
  text_render ⟨by decide, ⟨by decide, by decide⟩, trivial, trivial, trivial⟩ (by decide)

end Sample

theorem recovered_row : Sample.payload.Recovered (Value.object Sample.row).render :=
  ((recovered Sample.payload).2.2 _ Sample.carries).1 _ Sample.text_row

end Payload
end Accounts
