import Accounts.Json.Record
import Accounts.Proofs.Json.Value
/-! Records are read back from their written members, and not at all if one of them is not. -/
namespace Accounts.Json

theorem Reader.read_map {α β : Type} {r : Reader α} {f : α → β} {ts rest : List Token} {a : α}
    (h : r.read ts = .ok (a, rest)) : (r.map f).read ts = .ok (f a, rest) := by
  simp [Reader.map, Reader.refine, h]

theorem Reader.read_string {inside : Bytes} {s : String} (read : Quoted.decode? inside = some s) (rest : List Token) :
    Reader.text.read (.string inside :: rest) = .ok (s, rest) := by
  simp [Reader.text, Reader.scalar, read, Except.map]

theorem Reader.read_text (s : String) (rest : List Token) :
    Reader.text.read (.string (Quoted.escape (Bytes.ofText s)) :: rest) = .ok (s, rest) :=
  Reader.read_string (Quoted.decode?_escape s) rest

theorem Reader.read_map_error {α β : Type} {r : Reader α} {f : α → β} {ts : List Token}
    (h : ∃ e, r.read ts = .error e) : ∃ e, (r.map f).read ts = .error e := by
  obtain ⟨e, h⟩ := h
  exact ⟨e, by simp [Reader.map, Reader.refine, h]⟩

theorem Reader.read_nullable_text (s : String) (rest : List Token) :
    Reader.text.nullable.read (.string (Quoted.escape (Bytes.ofText s)) :: rest) = .ok (some s, rest) :=
  Reader.read_map (Reader.read_text s rest)

theorem Reader.read_int64 {n : Int} (small : IsInt64 n) (rest : List Token) :
    Reader.int64.read (.number (Literal.ofInt n) :: rest) = .ok (n, rest) := by
  have value := Literal.value?_ofInt (n := n) ⟨small.1, Int.le_trans small.2 (by decide)⟩
  simp [Reader.int64, Reader.integer, Reader.scalar, value, small.1, small.2, Except.map]

theorem Reader.read_int64_error {n : Int} (large : ¬ IsInt64 n) (rest : List Token) :
    ∃ e, Reader.int64.read (.number (Literal.ofInt n) :: rest) = .error e := by
  by_cases range : InRange n
  · have value := Literal.value?_ofInt range
    have beyond : ¬ ((-9223372036854775808 : Int) ≤ n ∧ n ≤ 9223372036854775807) := large
    exact ⟨.mismatched, by simp [Reader.int64, Reader.integer, Reader.scalar, value, beyond, Except.map]⟩
  · rcases value : (Literal.ofInt n).value? with _ | m | _
    · exact ⟨.malformed, by simp [Reader.int64, Reader.integer, Reader.scalar, value, Except.map]⟩
    · exact absurd (Literal.inRange_of_value?_ofInt value) range
    · exact ⟨.mismatched, by simp [Reader.int64, Reader.integer, Reader.scalar, value, Except.map]⟩

theorem Reader.read_refine_eq_ok {α β : Type} {r : Reader α} {f : α → Option β} {ts rest : List Token} {b : β} :
    (r.refine f).read ts = .ok (b, rest) ↔ ∃ a, r.read ts = .ok (a, rest) ∧ f a = some b := by
  rcases read : r.read ts with e | ⟨a, after⟩
  · simp [Reader.refine, read]
  · cases known : f a <;> simp [Reader.refine, read, known, and_comm]

theorem Reader.read_map_eq_ok {α β : Type} {r : Reader α} {f : α → β} {ts rest : List Token} {b : β} :
    (r.map f).read ts = .ok (b, rest) ↔ ∃ a, r.read ts = .ok (a, rest) ∧ f a = b := by
  simp [Reader.map, Reader.read_refine_eq_ok]

/-- What is read where null is allowed, too, is null or read as ever. -/
theorem Reader.read_nullable_eq_ok {α : Type} {r : Reader α} {ts rest : List Token} {a : α}
    (h : r.nullable.read ts = .ok (some a, rest)) : r.read ts = .ok (a, rest) := by
  simp only [Reader.nullable] at h
  split at h
  · cases h
  · obtain ⟨_, read, same⟩ := Reader.read_map_eq_ok.1 h
    exact Option.some.inj same ▸ read

theorem Reader.isInt64_of_read {ts rest : List Token} {n : Int} (h : Reader.int64.read ts = .ok (n, rest)) : IsInt64 n := by
  cases ts with
  | nil => cases h
  | cons t ts =>
    cases t with
    | number l =>
      rcases value : l.value? with _ | m | _ <;>
        simp only [Reader.int64, Reader.integer, Reader.scalar, value] at h
      · cases h
      · split at h
        · next small =>
          simp only [Bool.and_eq_true, decide_eq_true_eq] at small
          cases h
          exact small
        · cases h
      · cases h
    | _ => cases h

namespace Record
variable {γ σ : Type} {r : Record γ σ} {slots next : σ} {key : String} {reader : Reader σ} {rest after : List Token}

theorem memberReader_named {name : Bytes} (named : Quoted.decode? name = some key)
    (free : seat r slots key = .free reader) : memberReader r slots name = .ok reader := by
  simp [memberReader, named, free]

theorem memberReader_free (free : seat r slots key = .free reader) :
    memberReader r slots (Quoted.escape (Bytes.ofText key)) = .ok reader :=
  memberReader_named (Quoted.decode?_escape key) free

theorem members_next {name : Bytes} (found : memberReader r slots name = .ok reader)
    (read : reader.read rest = .ok (next, .comma :: after)) :
    members r slots (.string name :: .colon :: rest) = members r next after := by
  rw [members, found]
  dsimp only
  split <;> simp_all

theorem members_end {name : Bytes} (found : memberReader r slots name = .ok reader)
    (read : reader.read rest = .ok (next, .closeObject :: after)) :
    members r slots (.string name :: .colon :: rest) = .ok (next, after) := by
  rw [members, found]
  dsimp only
  split <;> simp_all

theorem members_comma (free : seat r slots key = .free reader)
    (read : reader.read rest = .ok (next, .comma :: after)) :
    members r slots (.string (Quoted.escape (Bytes.ofText key)) :: .colon :: rest) = members r next after :=
  members_next (memberReader_free free) read

theorem members_last {name : Bytes} (named : Quoted.decode? name = some key) (free : seat r slots key = .free reader)
    (read : reader.read rest = .ok (next, .closeObject :: after)) :
    members r slots (.string name :: .colon :: rest) = .ok (next, after) :=
  members_end (memberReader_named named free) read

theorem members_close (free : seat r slots key = .free reader)
    (read : reader.read rest = .ok (next, .closeObject :: after)) :
    members r slots (.string (Quoted.escape (Bytes.ofText key)) :: .colon :: rest) = .ok (next, after) :=
  members_last (Quoted.decode?_escape key) free read

theorem members_error (free : seat r slots key = .free reader) (read : ∃ e, reader.read rest = .error e) :
    ∃ e, members r slots (.string (Quoted.escape (Bytes.ofText key)) :: .colon :: rest) = .error e := by
  obtain ⟨e, read⟩ := read
  refine ⟨e, ?_⟩
  rw [members, memberReader_free free]
  dsimp only
  split <;> simp_all

theorem members_comma_error (free : seat r slots key = .free reader)
    (read : reader.read rest = .ok (next, .comma :: after)) (later : ∃ e, members r next after = .error e) :
    ∃ e, members r slots (.string (Quoted.escape (Bytes.ofText key)) :: .colon :: rest) = .error e := by
  rwa [members_comma free read]

theorem read_object {name : Bytes} {c : γ} (inside : members r (vacant r) (.string name :: rest) = .ok (slots, after))
    (whole : complete r slots = some c) : read r (.openObject :: .string name :: rest) = .ok (c, after) := by
  rw [read, inside]
  · simp [bind, Except.bind, read.close, whole]
  · nofun

theorem read_object_error {name : Bytes} (inside : ∃ e, members r (vacant r) (.string name :: rest) = .error e) :
    ∃ e, read r (.openObject :: .string name :: rest) = .error e := by
  obtain ⟨e, inside⟩ := inside
  refine ⟨e, ?_⟩
  rw [read, inside]
  · rfl
  · nofun

theorem parse_of_read {text : Bytes} {ts : List Token} {c : γ} (tokens : Token.ofBytes text = ts)
    (whole : read r ts = .ok (c, [])) : parse r text = .ok c := by
  simp [parse, tokens, whole]

/-! ### What every reading keeps -/

/-- Whichever member is read, this stays true of all that is known. -/
def Keeps (r : Record γ σ) (Q : σ → Prop) : Prop :=
  ∀ ⦃slots next : σ⦄ ⦃key : String⦄ ⦃reader : Reader σ⦄ ⦃ts rest : List Token⦄,
    seat r slots key = .free reader → reader.read ts = .ok (next, rest) → Q slots → Q next

section
variable {α β τ : Type} {first : Field α} {others : Record β τ} {P : Option α → Prop} {Q : τ → Prop}

theorem keeps_cons (here : ∀ {ts rest : List Token} {a : α}, first.reader.read ts = .ok (a, rest) → P (some a))
    (there : others.Keeps Q) : (cons first others).Keeps fun slots => P slots.1 ∧ Q slots.2 := by
  rintro ⟨slot, slots⟩ next key reader ts rest free read ⟨known, others_⟩
  simp only [seat] at free
  split at free
  · cases slot with
    | none =>
      cases free
      obtain ⟨a, given, rfl⟩ := Reader.read_map_eq_ok.1 read
      exact ⟨here given, others_⟩
    | some a => cases free
  · cases asked : seat others slots key with
    | free inner =>
      rw [asked] at free
      cases free
      obtain ⟨after, given, rfl⟩ := Reader.read_map_eq_ok.1 read
      exact ⟨known, there asked given others_⟩
    | _ =>
      rw [asked] at free
      cases free

theorem complete_cons {slot : Option α} {slots : τ} {a : α} {b : β}
    (h : complete (.cons first others) (slot, slots) = some (a, b)) :
    slot.or first.absent = some a ∧ complete others slots = some b := by
  simp only [complete, Option.bind_eq_bind, Option.bind_eq_some_iff] at h
  obtain ⟨a', known, b', whole, same⟩ := h
  cases same
  exact ⟨known, whole⟩

end

section
variable {Q : σ → Prop} (keeps : r.Keeps Q)
include keeps

theorem Keeps.memberReader {name : Bytes} (found : memberReader r slots name = .ok reader)
    (read : reader.read rest = .ok (next, after)) (start : Q slots) : Q next := by
  rw [Record.memberReader] at found
  split at found
  · cases found
  · next key named =>
    cases asked : seat r slots key with
    | unknown =>
      rw [asked] at found
      cases found
      obtain ⟨-, -, rfl⟩ := Reader.read_map_eq_ok.1 read
      exact start
    | taken =>
      rw [asked] at found
      cases found
    | free inner =>
      rw [asked] at found
      cases found
      exact keeps asked read start

theorem Keeps.members (start : Q slots) (h : members r slots rest = .ok (next, after)) : Q next := by
  fun_induction Record.members r slots rest with
  | case3 slots key reader found ts slots' after read ih => exact ih (keeps.memberReader found read start) h
  | case4 slots key reader found ts slots' after read =>
    cases h
    exact keeps.memberReader found read start
  | _ => cases h

theorem Keeps.read {c : γ} (start : Q (vacant r)) (h : read r (.openObject :: rest) = .ok (c, after)) :
    ∃ slots, Q slots ∧ complete r slots = some c := by
  have closed {slots : σ} {ts : List Token} (kept : Q slots) (ended : read.close r slots ts = .ok (c, after)) :
      ∃ slots, Q slots ∧ complete r slots = some c := by
    rw [read.close] at ended
    split at ended
    · cases ended
    · next whole =>
      cases ended
      exact ⟨slots, kept, whole⟩
  by_cases empty : ∃ more, rest = .closeObject :: more
  · obtain ⟨more, rfl⟩ := empty
    exact closed start h
  · rw [Record.read] at h
    · rcases inside : Record.members r (vacant r) rest with e | ⟨slots, ts⟩
      · rw [inside] at h
        cases h
      · rw [inside] at h
        exact closed (keeps.members start inside) h
    · exact fun more same => empty ⟨more, same⟩

/-- What is read from an object comes of something of which this is true. -/
theorem Keeps.parseObject {text : Bytes} {c : γ} (start : Q (vacant r)) (h : parseObject r text = .ok c) :
    ∃ slots, Q slots ∧ complete r slots = some c := by
  rw [Record.parseObject] at h
  split at h
  · next ts opens =>
    rw [parse] at h
    split at h
    · cases h
    · next c' whole =>
      cases h
      rw [opens] at whole
      exact keeps.read start whole
    · cases h
  · cases h
  · cases h

end

end Record

/-! ### What is read in either form -/

theorem map_eq_ok {ε α β : Type} {x : Except ε α} {f : α → β} {b : β} (h : x.map f = .ok b) :
    ∃ a, x = .ok a ∧ f a = b := by
  cases x with
  | error e => cases h
  | ok a => exact ⟨a, rfl, Except.ok.inj h⟩

/-- Whatever is read for a field, or stands in for it, has this property. -/
structure Field.Yields {α : Type} (f : Field α) (P : α → Prop) : Prop where
  read : ∀ {ts rest : List Token} {a : α}, f.reader.read ts = .ok (a, rest) → P a
  absent : ∀ a ∈ f.absent, P a
  cut : ∀ a ∈ f.cut, P a

theorem Field.yields_any {α : Type} (f : Field α) : f.Yields fun _ => True :=
  ⟨fun _ => trivial, fun _ _ => trivial, fun _ _ => trivial⟩

namespace Record

/-- Whatever is read in either form has this property; in an object, because of what is true of all that is known on
the way to its end. -/
structure Yields {γ σ : Type} (r : Record γ σ) (P : γ → Prop) : Prop where
  object : ∃ Q : σ → Prop, Q (vacant r) ∧ r.Keeps Q ∧ ∀ slots c, Q slots → complete r slots = some c → P c
  items : ∀ {start : Bool} {ts rest : List Token} {c : γ}, items r start ts = .ok (c, rest) → P c

theorem yields_any {γ σ : Type} (r : Record γ σ) : r.Yields fun _ => True :=
  ⟨⟨fun _ => True, trivial, fun _ _ _ _ _ _ _ _ _ => trivial, fun _ _ _ _ => trivial⟩, fun _ => trivial⟩

theorem Yields.mono {γ σ : Type} {r : Record γ σ} {P R : γ → Prop} (h : r.Yields P) (weaker : ∀ c, P c → R c) :
    r.Yields R := by
  obtain ⟨Q, start, keeps, known⟩ := h.object
  exact ⟨⟨Q, start, keeps, fun slots c kept whole => weaker c (known slots c kept whole)⟩,
    fun read => weaker _ (h.items read)⟩

section
variable {α β τ : Type} {first : Field α} {others : Record β τ} {P : α → Prop} {R : β → Prop}

theorem item_eq_ok {ts rest : List Token} {a : α} {b : β} (h : items.item first others ts = .ok ((a, b), rest)) :
    ∃ after, first.reader.read ts = .ok (a, after) ∧ items others false after = .ok (b, rest) := by
  unfold items.item at h
  rcases read : first.reader.read ts with e | ⟨a', after⟩
  · rw [read] at h
    cases h
  · rw [read] at h
    dsimp only [bind, Except.bind] at h
    rcases more : items others false after with e | ⟨b', rest'⟩
    · rw [more] at h
      cases h
    · rw [more] at h
      cases h
      exact ⟨after, rfl, more⟩

/-- Before the end of an array an item is read; after it, a field has what it has where the array is cut. -/
theorem items_cons {start : Bool} {ts rest : List Token} {a : α} {b : β}
    (h : items (cons first others) start ts = .ok ((a, b), rest)) :
    (first.cut = some a ∧ ∃ us, items others start us = .ok (b, rest)) ∨
      ∃ us after, first.reader.read us = .ok (a, after) ∧ items others false after = .ok (b, rest) := by
  by_cases closed : ∃ more, ts = .closeArray :: more
  · obtain ⟨more, rfl⟩ := closed
    rw [items] at h
    cases cut : first.cut with
    | none =>
      rw [cut] at h
      cases h
    | some a' =>
      rw [cut] at h
      obtain ⟨⟨b', rest'⟩, read, same⟩ := map_eq_ok h
      cases same
      exact .inl ⟨rfl, _, read⟩
  · have opens : ∀ after, ts ≠ .closeArray :: after := fun after same => closed ⟨after, same⟩
    cases start with
    | true =>
      rw [items] at h
      · exact .inr ⟨_, item_eq_ok h⟩
      · exact fun _ _ _ _ _ after _ _ _ => opens after
    | false =>
      by_cases comma : ∃ more, ts = .comma :: more
      · obtain ⟨more, rfl⟩ := comma
        rw [items] at h
        exact .inr ⟨_, item_eq_ok h⟩
      · rw [items] at h
        · cases h
        · exact fun _ _ _ _ _ after _ _ _ => opens after
        · exact fun _ _ _ _ _ more _ _ _ same => comma ⟨more, same⟩

theorem yields_cons (here : first.Yields P) (there : others.Yields R) :
    (cons first others).Yields fun c => P c.1 ∧ R c.2 where
  object := by
    obtain ⟨Q, start, keeps, known⟩ := there.object
    refine ⟨fun slots => (∀ a ∈ slots.1, P a) ∧ Q slots.2, ⟨nofun, start⟩, ?_, ?_⟩
    · exact keeps_cons (P := fun slot => ∀ a ∈ slot, P a)
        (fun read a same => Option.some.inj same ▸ here.read read) keeps
    · rintro ⟨slot, slots⟩ ⟨a, b⟩ ⟨given, kept⟩ whole
      obtain ⟨own, others_⟩ := complete_cons whole
      refine ⟨?_, known slots b kept others_⟩
      cases slot with
      | none => exact here.absent a own
      | some a' => exact given a own
  items := by
    rintro start ts rest ⟨a, b⟩ h
    rcases items_cons h with ⟨cut, us, more⟩ | ⟨us, after, read, more⟩
    · exact ⟨here.cut a cut, there.items more⟩
    · exact ⟨here.read read, there.items more⟩

end

theorem Yields.parse {γ σ : Type} {r : Record γ σ} {P : γ → Prop} (yields : r.Yields P) {text : Bytes} {c : γ}
    (h : parse r text = .ok c) : P c := by
  rw [Record.parse] at h
  split at h
  · cases h
  · next c' whole =>
    cases h
    generalize Token.ofBytes text = ts at whole
    cases ts with
    | nil => cases whole
    | cons t ts =>
      cases t with
      | openObject =>
        obtain ⟨Q, start, keeps, known⟩ := yields.object
        obtain ⟨slots, kept, completed⟩ := keeps.read start whole
        exact known slots _ kept completed
      | openArray => exact yields.items whole
      | _ => cases whole
  · cases h

end Record
end Accounts.Json
