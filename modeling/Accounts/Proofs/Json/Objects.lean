import Accounts.Proofs.Json.Record
import Accounts.Proofs.Json.Texts
/-! Records read from objects. The order of the members does not count, and a member for which there is no field is
passed over, whatever it holds. Main statement: from every text of an object with these members the same is read. -/
namespace Accounts.Json
open Value (Spells)

/-! ### Values that are passed over -/

/-- Passing over these tokens goes on after the phrase. -/
def Value.Phrase.Skipped : Value.Phrase → List Token → Prop
  | .value _, ts => ∀ stack rest, skipOn stack true (ts ++ rest) = skipOn stack false rest
  | .items _, ts =>
    ∀ stack rest, skipOn (.array :: stack) true (ts ++ .closeArray :: rest) = skipOn stack false rest
  | .members _, ts => ∃ inside more, ts = .string inside :: .colon :: more ∧
      ∀ stack rest, skipOn (.object :: stack) true (more ++ .closeObject :: rest) = skipOn stack false rest

theorem Value.Spells.skipped {p : Value.Phrase} {ts : List Token} (h : Spells p ts) : p.Skipped ts := by
  induction h with
  | @scalar t v value =>
    intro stack rest
    cases t with
    | null | bool b | number l | string inside => simp [skipOn]
    | _ => cases value
  | emptyArray | emptyObject => exact fun stack rest => by simp [skipOn]
  | @array vs ts items ih =>
    intro stack rest
    obtain ⟨⟨t, more, rfl, opens⟩, -⟩ := items.read
    have inside := ih stack rest
    simpa [skipOn, opens] using inside
  | object members ih =>
    intro stack rest
    obtain ⟨inside, more, rfl, skips⟩ := ih
    simpa [skipOn] using skips stack rest
  | lastItem value ih =>
    intro stack rest
    rw [ih (.array :: stack), skipOn]
  | item value more ih ihMore =>
    intro stack rest
    rw [List.append_assoc, ih (.array :: stack), List.cons_append, skipOn, ihMore stack rest]
  | lastMember read value ih =>
    refine ⟨_, _, rfl, fun stack rest => ?_⟩
    rw [ih (.object :: stack), skipOn]
  | member read value more ih ihMore =>
    obtain ⟨inside, others, rfl, skips⟩ := ihMore
    refine ⟨_, _, rfl, fun stack rest => ?_⟩
    rw [List.append_assoc, ih (.object :: stack), List.cons_append, List.cons_append, List.cons_append, skipOn,
      skips stack rest]

/-! ### Values that are read -/

namespace Reader
variable {α β : Type} {r : Reader α} {v : Value} {a : α}

/-- However the value is spelled, `a` is read from it. -/
def Takes (r : Reader α) (v : Value) (a : α) : Prop :=
  ∀ ⦃ts : List Token⦄, Spells (.value v) ts → ∀ rest, r.read (ts ++ rest) = .ok (a, rest)

theorem takes_text (s : String) : text.Takes (.string s) s := by
  intro ts spells rest
  cases spells with
  | scalar value =>
    obtain ⟨inside, rfl, read⟩ := Value.string_of_ofToken? value
    exact read_string read rest

theorem takes_flag (b : Bool) : flag.Takes (.bool b) b := by
  intro ts spells rest
  cases spells with
  | @scalar t _ value =>
    cases t with
    | bool c =>
      cases value
      rfl
    | number | string =>
      obtain ⟨_, -, same⟩ := Option.map_eq_some_iff.1 value
      cases same
    | _ => cases value

theorem takes_ignored (v : Value) : ignored.Takes v () := by
  intro ts spells rest
  have skipped := spells.skipped [] rest
  simp [ignored, skipped, skipOn]

theorem Takes.refine {f : α → Option β} {b : β} (h : r.Takes v a) (known : f a = some b) : (r.refine f).Takes v b := by
  intro ts spells rest
  simp [Reader.refine, h spells rest, known]

theorem Takes.map (f : α → β) (h : r.Takes v a) : (r.map f).Takes v (f a) := h.refine rfl

theorem takes_null (r : Reader α) : r.nullable.Takes .null none := by
  intro ts spells rest
  cases spells with
  | @scalar t _ value =>
    cases t with
    | null => rfl
    | number | string =>
      obtain ⟨_, -, same⟩ := Option.map_eq_some_iff.1 value
      cases same
    | _ => cases value

theorem Takes.nullable (h : r.Takes v a) (given : v ≠ .null) : r.nullable.Takes v (some a) := by
  intro ts spells rest
  have starts : ∀ more, ts ++ rest ≠ .null :: more := by
    intro more same
    cases spells with
    | scalar value =>
      obtain ⟨rfl, -⟩ := List.cons.inj same
      cases value
      exact given rfl
    | _ => cases same
  have read := h.map some spells rest
  simpa only [Reader.nullable, starts] using read

end Reader

/-! ### Members and fields -/

/-- What is known of a field and what the members that are still to come tell of it make this value. -/
inductive Field.Gives {α : Type} (f : Field α) (ms : List (String × Value)) : Option α → α → Prop
  | known (a : α) (past : f.name ∉ ms.map (·.1)) : f.Gives ms (some a) a
  | member {v : Value} {a : α} (told : (f.name, v) ∈ ms) (takes : f.reader.Takes v a) : f.Gives ms none a
  | absent {a : α} (untold : f.name ∉ ms.map (·.1)) (default : f.absent = some a) : f.Gives ms none a

/-- A member of another name tells nothing. -/
theorem Field.Gives.tail {α : Type} {f : Field α} {ms : List (String × Value)} {key : String} {v : Value}
    {slot : Option α} {a : α} (h : f.Gives ((key, v) :: ms) slot a) (other : key ≠ f.name) : f.Gives ms slot a := by
  cases h with
  | known a past => exact .known a fun mem => past (List.mem_cons_of_mem _ mem)
  | member told takes =>
    rcases List.mem_cons.1 told with same | told
    · exact absurd (Prod.mk.inj same).1.symm other
    · exact .member told takes
  | absent untold default => exact .absent (fun mem => untold (List.mem_cons_of_mem _ mem)) default

namespace Record

def names : {γ σ : Type} → Record γ σ → List String
  | _, _, .nil => []
  | _, _, .cons first rest => first.name :: names rest

def Gives (ms : List (String × Value)) : {γ σ : Type} → Record γ σ → σ → γ → Prop
  | _, _, .nil, _, _ => True
  | _, _, .cons first rest, (slot, slots), (a, b) => first.Gives ms slot a ∧ Gives ms rest slots b

/-- What becomes of what is known when a member of this value is read. -/
def Seat.Takes {σ : Type} (v : Value) (slots next : σ) : Seat σ → Prop
  | .unknown => next = slots
  | .taken => False
  | .free reader => reader.Takes v next

theorem Seat.Takes.map {σ τ : Type} {v : Value} {slots next : σ} {seat : Seat σ} (f : σ → τ)
    (h : seat.Takes v slots next) : (seat.map f).Takes v (f slots) (f next) := by
  cases seat with
  | unknown => exact congrArg f h
  | taken => exact h
  | free reader => exact Reader.Takes.map f h

section
variable {γ σ : Type} {r : Record γ σ} {slots : σ} {c : γ} {ms : List (String × Value)} {key : String} {v : Value}

theorem Gives.tail (h : Gives ((key, v) :: ms) r slots c) (other : key ∉ r.names) : Gives ms r slots c := by
  induction r with
  | nil => trivial
  | cons first rest ih =>
    rw [names, List.mem_cons, not_or] at other
    exact ⟨h.1.tail other.1, ih h.2 other.2⟩

/-- One member is taken where it belongs. -/
theorem Gives.seat (h : Gives ((key, v) :: ms) r slots c) (distinct : r.names.Nodup) (once : key ∉ ms.map (·.1)) :
    ∃ next, (r.seat slots key).Takes v slots next ∧ Gives ms r next c := by
  induction r with
  | nil => exact ⟨slots, rfl, trivial⟩
  | cons first rest ih =>
    obtain ⟨slot, slots⟩ := slots
    obtain ⟨a, b⟩ := c
    obtain ⟨here, there⟩ := h
    obtain ⟨apart, distinct⟩ := List.nodup_cons.1 distinct
    by_cases own : key = first.name
    · subst own
      refine ⟨(some a, slots), ?_, .known a once, there.tail apart⟩
      simp only [Record.seat, if_true]
      cases here with
      | known a past => exact absurd List.mem_cons_self past
      | member told takes =>
        rcases List.mem_cons.1 told with same | told
        · obtain rfl := (Prod.mk.inj same).2
          exact takes.map _
        · exact absurd (List.mem_map_of_mem told) once
      | absent untold default => exact absurd List.mem_cons_self untold
    · obtain ⟨next, takes, gives⟩ := ih there distinct
      refine ⟨(slot, next), ?_, here.tail own, gives⟩
      simp only [Record.seat, if_neg own]
      exact takes.map _

/-- Once no member is left, all is known or has a default. -/
theorem Gives.complete (h : Gives [] r slots c) : complete r slots = some c := by
  induction r with
  | nil => rfl
  | cons first rest ih =>
    obtain ⟨slot, slots⟩ := slots
    obtain ⟨a, b⟩ := c
    have here : slot.or first.absent = some a := by
      cases h.1 with
      | known => rfl
      | member told => cases told
      | absent untold default => exact default
    simp [Record.complete, here, ih h.2]

/-! ### Objects -/

theorem exists_memberReader {inside : Bytes} {next : σ} (named : Quoted.decode? inside = some key)
    (takes : (r.seat slots key).Takes v slots next) :
    ∃ reader, memberReader r slots inside = .ok reader ∧ reader.Takes v next := by
  rw [memberReader, named]
  dsimp only
  cases seated : r.seat slots key with
  | unknown =>
    rw [seated] at takes
    obtain rfl : next = slots := takes
    exact ⟨_, rfl, (Reader.takes_ignored v).map _⟩
  | taken =>
    rw [seated] at takes
    exact takes.elim
  | free reader =>
    rw [seated] at takes
    exact ⟨reader, rfl, takes⟩

theorem Gives.members {ts : List Token} (h : Gives ms r slots c) (distinct : r.names.Nodup)
    (once : (ms.map (·.1)).Nodup) (spells : Spells (.members ms) ts) (rest : List Token) :
    ∃ next, members r slots (ts ++ .closeObject :: rest) = .ok (next, rest) ∧ Gives [] r next c := by
  induction ms generalizing slots ts with
  | nil => cases spells
  | cons m ms ih =>
    obtain ⟨key, v⟩ := m
    obtain ⟨new, once⟩ := List.nodup_cons.1 once
    obtain ⟨next, takes, gives⟩ := h.seat distinct new
    cases spells with
    | lastMember named value =>
      obtain ⟨reader, found, reads⟩ := exists_memberReader named takes
      exact ⟨next, members_end found (reads value _), gives⟩
    | member named value more =>
      obtain ⟨reader, found, reads⟩ := exists_memberReader named takes
      obtain ⟨last, others, gives⟩ := ih gives once more
      refine ⟨last, ?_, gives⟩
      rw [List.cons_append, List.cons_append, List.append_assoc, List.cons_append, members_next found (reads value _),
        others]

/-- From every text of an object a record is read as the members tell. -/
theorem Gives.parse {bs : Bytes} (h : Gives ms r (vacant r) c) (distinct : r.names.Nodup) (once : (ms.map (·.1)).Nodup)
    (text : (Value.object ms).Text bs) : r.parse bs = .ok c := by
  have spells := text.spells
  refine parse_of_read rfl ?_
  generalize Token.ofBytes bs = ts at spells
  cases spells with
  | scalar value => exact absurd value (Value.ofToken?_ne_object _ _)
  | emptyObject =>
    rw [read, read.close, h.complete]
  | object spells =>
    obtain ⟨slots, inside, gives⟩ := h.members distinct once spells []
    obtain ⟨name, key, more, rfl, -⟩ := spells.read
    exact read_object inside gives.complete

end

end Record
end Accounts.Json
