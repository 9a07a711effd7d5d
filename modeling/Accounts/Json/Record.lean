import Accounts.Json.Reader
/-! Records: values with named fields. One is written as an object, whose unknown members are passed over, or
as an array of the fields in order. -/
namespace Accounts.Json

structure Field (α : Type) where
  name : String
  reader : Reader α
  /-- Its value where an object lacks it. -/
  absent : Option α
  /-- Its value where an array ends before it. -/
  cut : Option α

namespace Field
variable {α : Type}

def required (name : String) (r : Reader α) : Field α := ⟨name, r, none, none⟩

def withDefault (name : String) (r : Reader α) (a : α) : Field α := ⟨name, r, some a, some a⟩

/-- It may be null or left out of an object, but an array has to have it. -/
def nullable (name : String) (r : Reader α) : Field (Option α) := ⟨name, r.nullable, some none, none⟩

end Field

/-- The fields of a record in order. The second type holds what is known of each while reading. -/
inductive Record : Type → Type → Type 1
  | nil : Record Unit Unit
  | cons {α β σ : Type} (first : Field α) (rest : Record β σ) : Record (α × β) (Option α × σ)

namespace Record

def vacant : {γ σ : Type} → Record γ σ → σ
  | _, _, .nil => ()
  | _, _, .cons _ rest => (none, vacant rest)

/-- All fields, once an object has ended. -/
def complete : {γ σ : Type} → Record γ σ → σ → Option γ
  | _, _, .nil, _ => some ()
  | _, _, .cons first rest, (slot, slots) => do
    let a ← slot.or first.absent
    let b ← complete rest slots
    return (a, b)

/-- What a member's name asks for. -/
inductive Seat (σ : Type)
  | unknown
  | taken
  | free (r : Reader σ)

def Seat.map {σ τ : Type} (f : σ → τ) : Seat σ → Seat τ
  | .unknown => .unknown
  | .taken => .taken
  | .free r => .free (r.map f)

def seat : {γ σ : Type} → Record γ σ → σ → String → Seat σ
  | _, _, .nil, _, _ => .unknown
  | _, _, .cons first rest, (slot, slots), key =>
    if key = first.name then
      match slot with
      | some _ => .taken
      | none => .free (first.reader.map fun a => (some a, slots))
    else (seat rest slots key).map fun slots => (slot, slots)

variable {γ σ : Type}

/-- The reader for the member of this name, which may be read once only. -/
def memberReader (r : Record γ σ) (slots : σ) (key : Bytes) : Except Fault (Reader σ) :=
  match Quoted.decode? key with
  | none => .error .malformed
  | some key =>
    match seat r slots key with
    | .unknown => .ok (Reader.ignored.map fun _ => slots)
    | .taken => .error .mismatched
    | .free reader => .ok reader

/-- The members of an object from a name on, up to its closing bracket. -/
def members (r : Record γ σ) (slots : σ) (ts : List Token) : Except Fault (σ × List Token) :=
  match ts with
  | .string key :: rest =>
    match memberReader r slots key with
    | .error e => .error e
    | .ok reader =>
      match rest with
      | .colon :: rest =>
        match _ : reader.read rest with
        | .error e => .error e
        | .ok (slots, .comma :: after) => members r slots after
        | .ok (slots, .closeObject :: after) => .ok (slots, after)
        | .ok _ => .error .malformed
      | _ => .error .malformed
  | _ => .error .malformed
  termination_by ts.length
  decreasing_by
    have := reader.shorter ‹reader.read _ = _›
    simp at this ⊢
    omega

/-- The items of an array up to its closing bracket; a comma precedes each but the first. -/
def items : {γ σ : Type} → Record γ σ → Bool → List Token → Except Fault (γ × List Token)
  | _, _, .nil, _, .closeArray :: after => .ok ((), after)
  | _, _, .nil, _, _ => .error .malformed
  | _, _, .cons first rest, start, .closeArray :: after =>
    match first.cut with
    | none => .error .mismatched
    | some a => (items rest start (.closeArray :: after)).map fun (b, after) => ((a, b), after)
  | _, _, .cons first rest, true, ts => item first rest ts
  | _, _, .cons first rest, false, .comma :: ts => item first rest ts
  | _, _, .cons _ _, false, _ => .error .malformed
where
  item {α β τ : Type} (first : Field α) (rest : Record β τ) (ts : List Token) :
      Except Fault ((α × β) × List Token) := do
    let (a, ts) ← first.reader.read ts
    let (b, ts) ← items rest false ts
    return ((a, b), ts)

/-- The record at the front of the tokens, in either form. -/
def read (r : Record γ σ) : List Token → Except Fault (γ × List Token)
  | .openObject :: .closeObject :: rest => close (vacant r) rest
  | .openObject :: ts => do
    let (slots, rest) ← members r (vacant r) ts
    close slots rest
  | .openArray :: ts => items r true ts
  | t :: _ => .error t.mismatch
  | [] => .error .malformed
where
  close (slots : σ) (rest : List Token) : Except Fault (γ × List Token) :=
    match complete r slots with
    | none => .error .mismatched
    | some c => .ok (c, rest)

def parse (r : Record γ σ) (text : Bytes) : Except Fault γ :=
  match read r (Token.ofBytes text) with
  | .error e => .error e
  | .ok (c, []) => .ok c
  | .ok (_, _ :: _) => .error .malformed

/-- The same, where the array form is not allowed. -/
def parseObject (r : Record γ σ) (text : Bytes) : Except Fault γ :=
  match Token.ofBytes text with
  | .openObject :: _ => parse r text
  | t :: _ => .error t.mismatch
  | [] => .error .malformed

end Record
end Accounts.Json
