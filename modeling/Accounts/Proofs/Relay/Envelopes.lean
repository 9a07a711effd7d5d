import Accounts.Proofs.Json.Texts
import Accounts.Relay.Record
/-! A row is announced as itself or in an envelope. Main statement: an envelope is read as the row in it is, however
either is spelled and whatever else they hold, and one envelope in another is not read. -/
namespace Accounts.Relay
open Json Value

/-! ### Members that are looked at -/

/-- A member of this name, and no other of the name. -/
def Only (key : String) (v : Value) (members : List (String × Value)) : Prop :=
  (key, v) ∈ members ∧ ∀ w, (key, w) ∈ members → w = v

def Wraps (inner outer : List (String × Value)) : Prop := Only "payload" (.object inner) outer

namespace RowRecord

def fieldNames : List String := ["id", "payload", "status", "aggregate_id", "event_type", "created_at", "updated_at"]

end RowRecord

/-- The same fields of a row, in whichever order and among whatever others. -/
def SameFields (members members' : List (String × Value)) : Prop :=
  ∀ name ∈ RowRecord.fieldNames, ∀ v, (name, v) ∈ members ↔ (name, v) ∈ members'

section
variable {key : String} {v : Value} {members members' inner outer : List (String × Value)}

theorem only_of_nodup (distinct : (members.map (·.1)).Nodup) (mem : (key, v) ∈ members) : Only key v members :=
  ⟨mem, fun _ other => congrArg Prod.snd (List.inj_on_of_nodup_map distinct other mem rfl)⟩

theorem Only.lookup (h : Only key v members) : members.lookup key = some v := by
  obtain ⟨w, found⟩ : ∃ w, members.lookup key = some w := by
    rw [← Option.isSome_iff_exists, List.lookup_isSome_iff]
    exact ⟨_, h.1, by simp⟩
  obtain ⟨before, after, rfl, -⟩ := List.lookup_eq_some_iff.1 found
  rw [found, h.2 w (List.mem_append_right before List.mem_cons_self)]

theorem Only.lookup_merged (h : Only key v members) : (mergedMembers [] members).lookup key = some v.merged := by
  have last : Only key v members.reverse := ⟨List.mem_reverse.2 h.1, fun w mem => h.2 w (List.mem_reverse.1 mem)⟩
  rw [lookup_mergedMembers, last.lookup]
  rfl

theorem mem_of_lookup_merged (found : (mergedMembers [] members).lookup key = some v) :
    ∃ w, (key, w) ∈ members ∧ v = w.merged := by
  rw [lookup_mergedMembers, List.lookup_nil, Option.or_none] at found
  obtain ⟨w, last, rfl⟩ := Option.map_eq_some_iff.1 found
  obtain ⟨before, after, same, -⟩ := List.lookup_eq_some_iff.1 last
  refine ⟨w, List.mem_reverse.1 ?_, rfl⟩
  rw [same]
  exact List.mem_append_right before List.mem_cons_self

theorem lookup_merged_none (absent : ∀ w, (key, w) ∉ members) : (mergedMembers [] members).lookup key = none := by
  rcases found : (mergedMembers [] members).lookup key with _ | v
  · rfl
  · obtain ⟨w, mem, -⟩ := mem_of_lookup_merged found
    exact absurd mem (absent w)

theorem lookup_merged_congr (distinct : (members.map (·.1)).Nodup) (distinct' : (members'.map (·.1)).Nodup)
    (same : ∀ v, (key, v) ∈ members ↔ (key, v) ∈ members') :
    (mergedMembers [] members').lookup key = (mergedMembers [] members).lookup key := by
  by_cases present : ∃ v, (key, v) ∈ members
  · obtain ⟨v, mem⟩ := present
    rw [(only_of_nodup distinct mem).lookup_merged, (only_of_nodup distinct' ((same v).1 mem)).lookup_merged]
  · have absent := not_exists.1 present
    rw [lookup_merged_none absent, lookup_merged_none fun v mem => absent v ((same v).2 mem)]

end

/-! ### Rows and envelopes -/

namespace RowRecord

theorem ofValue?_congr {members members' : List (String × Value)}
    (same : ∀ name ∈ fieldNames, members'.lookup name = members.lookup name) :
    ofValue? (.object members') = ofValue? (.object members) := by
  simp only [fieldNames, List.forall_mem_cons] at same
  simp only [ofValue?, same]

section
variable {members members' inner outer : List (String × Value)} {text : Bytes}

/-- A text without an object for a payload is read as a row. -/
theorem parse?_row (raw : ∀ inner, ("payload", .object inner) ∉ members) (distinct : (members.map (·.1)).Nodup)
    (h : (Value.object members).Text text) : parse? text = ofValue? (.object (mergedMembers [] members)) := by
  have plain : unwrap (.object (mergedMembers [] members)) = .object (mergedMembers [] members) := by
    by_cases present : ∃ v, ("payload", v) ∈ members
    · obtain ⟨v, mem⟩ := present
      have stored := (only_of_nodup distinct mem).lookup_merged
      rw [unwrap, Value.get?, stored]
      cases v with
      | object inner => exact absurd mem (raw inner)
      | _ => rfl
    · rw [unwrap, Value.get?, lookup_merged_none (not_exists.1 present)]
  rw [parse?, h.parse?, Option.bind_some, merged, plain]

theorem parse?_wrapped (wraps : Wraps inner outer) (h : (Value.object outer).Text text) :
    parse? text = ofValue? (.object (mergedMembers [] inner)) := by
  have stored : (mergedMembers [] outer).lookup "payload" = some (.object (mergedMembers [] inner)) :=
    wraps.lookup_merged
  rw [parse?, h.parse?, Option.bind_some, merged, unwrap, Value.get?, stored]

/-- The payload of a row is a text. -/
theorem ofValue?_wraps (wraps : Wraps inner outer) : ofValue? (.object (mergedMembers [] outer)) = none := by
  have stored : (mergedMembers [] outer).lookup "payload" = some (.object (mergedMembers [] inner)) :=
    wraps.lookup_merged
  simp only [ofValue?, ofFields?, stored]
  rcases (mergedMembers [] outer).lookup "id" with _ | id
  · rfl
  · rcases int? id with _ | n <;> simp [text?]

theorem ofValue?_merged (distinct : (members.map (·.1)).Nodup) (distinct' : (members'.map (·.1)).Nodup)
    (same : SameFields members members') :
    ofValue? (.object (mergedMembers [] members')) = ofValue? (.object (mergedMembers [] members)) :=
  ofValue?_congr fun name field => lookup_merged_congr distinct distinct' (same name field)

end

/-- A row with these fields is read alike from each text of it and of each envelope around it, and from none around
one of those. -/
theorem parse?_alike {members members' : List (String × Value)} (distinct : (members.map (·.1)).Nodup)
    (distinct' : (members'.map (·.1)).Nodup) (raw : ∀ inner, ("payload", .object inner) ∉ members)
    (same : SameFields members members') {text : Bytes} (written : (Value.object members).Text text) :
    (∀ text', (Value.object members').Text text' → parse? text' = parse? text) ∧
    (∀ outer envelope, Wraps members' outer → (Value.object outer).Text envelope → parse? envelope = parse? text) ∧
    ∀ inner outer outermost envelope, Wraps inner outer → Wraps outer outermost →
      (Value.object outermost).Text envelope → parse? envelope = none := by
  have raw' : ∀ inner, ("payload", .object inner) ∉ members' := fun inner mem =>
    raw inner ((same "payload" (by decide) _).2 mem)
  have row := parse?_row raw distinct written
  have alike := ofValue?_merged distinct distinct' same
  refine ⟨fun text' written' => ?_, fun outer envelope wraps written' => ?_,
    fun inner outer outermost envelope wraps wraps' written' => ?_⟩
  · rw [parse?_row raw' distinct' written', alike, row]
  · rw [parse?_wrapped wraps written', alike, row]
  · rw [parse?_wrapped wraps' written', ofValue?_wraps wraps]

namespace Sample

def row : List (String × Value) := [("id", .int 7), ("payload", .string "a \"b\"")]

/-- The same row in another order, with one more member. -/
def noted : List (String × Value) := [("note", .null), ("payload", .string "a \"b\""), ("id", .int 7)]

def envelope : List (String × Value) := [("op", .string "c"), ("payload", .object noted)]

def nested : List (String × Value) := [("payload", .object envelope)]

theorem text_row : (Value.object row).Text (Value.object row).render :=
  text_render ⟨by decide, ⟨by decide, by decide⟩, trivial, trivial⟩ (by decide)

theorem plain_noted : (Value.object noted).Plain := ⟨by decide, trivial, trivial, ⟨by decide, by decide⟩, trivial⟩

theorem text_envelope : (Value.object envelope).Text (Value.object envelope).render :=
  text_render ⟨by decide, trivial, plain_noted, trivial⟩ (by decide)

theorem text_nested : (Value.object nested).Text (Value.object nested).render :=
  text_render ⟨by decide, ⟨by decide, trivial, plain_noted, trivial⟩, trivial⟩ (by decide)

/-- White space between the members, and one character escaped where it need not be. -/
def spaced : Bytes := Bytes.ofText "\x7b \"note\":null,\n\"payload\": \"a \\\"b\\u0022\",\"id\":7\t\x7d\n"

theorem text_spaced : (Value.object noted).Text spaced := by
  have name (s : String) : (Token.ofText s).Stands (Quoted.encode s) := stands_encode s
  have colon : Token.colon.Stands (Bytes.ofText ":") := Token.stands_of_split? rfl
  have comma : Token.comma.Stands (Bytes.ofText ",") := Token.stands_of_split? rfl
  have commaLine : Token.comma.Stands (Bytes.ofText ",\n") :=
    ⟨[], Bytes.ofText ",", Bytes.ofText "\n", blank_nil, rfl, by decide, rfl⟩
  have opens : Token.openObject.Stands (Bytes.ofText "\x7b ") :=
    ⟨[], Bytes.ofText "\x7b", Bytes.ofText " ", blank_nil, rfl, by decide, rfl⟩
  have closes : Token.closeObject.Stands (Bytes.ofText "\x7d\n") :=
    ⟨[], Bytes.ofText "\x7d", Bytes.ofText "\n", blank_nil, rfl, by decide, rfl⟩
  have note : Writes (.value .null) (Bytes.ofText "null") := .scalar (Token.stands_of_split? rfl) rfl
  have payload : Writes (.value (.string "a \"b\"")) (Bytes.ofText " \"a \\\"b\\u0022\"") :=
    .scalar ⟨Bytes.ofText " ", Bytes.ofText "\"a \\\"b\\u0022\"", [], by decide, rfl, blank_nil, rfl⟩ rfl
  have id : Writes (.members [("id", .int 7)]) (Bytes.ofText "\"id\":7\t") :=
    .lastMember (name "id") (Quoted.decode?_escape "id") colon
      (.scalar ⟨[], Bytes.ofText "7", Bytes.ofText "\t", blank_nil, rfl, by decide, rfl⟩ rfl)
  have others := Writes.member (name "payload") (Quoted.decode?_escape "payload") colon payload comma id
  have members := Writes.member (name "note") (Quoted.decode?_escape "note") colon note commaLine others
  exact ⟨.object opens members closes, by decide⟩

theorem wraps_noted : Wraps noted envelope :=
  only_of_nodup (by decide) (List.mem_cons_of_mem _ List.mem_cons_self)

theorem wraps_envelope : Wraps envelope nested := only_of_nodup (by decide) List.mem_cons_self

theorem sameFields : SameFields row noted := by
  intro name field v
  have other : name ≠ "note" := by
    rintro rfl
    exact absurd field (by decide)
  simp only [row, noted, List.mem_cons, Prod.mk.injEq, List.not_mem_nil, or_false, other, false_and, false_or]
  exact or_comm

end Sample

theorem parse?_alike_spaced : parse? Sample.spaced = parse? (Value.object Sample.row).render ∧
    parse? (Value.object Sample.envelope).render = parse? (Value.object Sample.row).render ∧
    parse? (Value.object Sample.nested).render = none := by
  have alike := parse?_alike (by decide) (by decide) ?_ Sample.sameFields Sample.text_row
  · exact ⟨alike.1 _ Sample.text_spaced, alike.2.1 _ _ Sample.wraps_noted Sample.text_envelope,
      alike.2.2 _ _ _ _ Sample.wraps_noted Sample.wraps_envelope Sample.text_nested⟩
  · simp [Sample.row]

end RowRecord
end Accounts.Relay
