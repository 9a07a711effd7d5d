import Accounts.Proofs.Json.Quoted
import Accounts.Proofs.Json.Tokens
/-! Values are read back from their compact text. -/
namespace Accounts.Json.Value
open Bytes

/-! ### How deep brackets nest -/

mutual

def depth : Value → Nat
  | .array items => depthOfItems items + 1
  | .object members => depthOfMembers members + 1
  | _ => 0

def depthOfItems : List Value → Nat
  | [] => 0
  | v :: rest => max (depth v) (depthOfItems rest)

def depthOfMembers : List (String × Value) → Nat
  | [] => 0
  | (_, v) :: rest => max (depth v) (depthOfMembers rest)

end

/-! ### Reading on -/

/-- A member of a new name comes last. -/
def Appends (add : Adder) : Prop :=
  ∀ key v members, key ∉ members.map (·.1) → add key v members = members ++ [(key, v)]

theorem appends_setMember : Appends setMember := by
  intro key v members new
  have absent : members.any (·.1 == key) = false := by
    rw [List.any_eq_false]
    intro m mem same
    exact new (List.mem_map.2 ⟨m, mem, by simpa using same⟩)
  simp [setMember, absent]

section
variable {add : Adder} {room : Nat} {stack : List Frame} {rest : List Token}

theorem readOn_openArray {t : Token} (opens : t ≠ .closeArray) (left : room ≠ 0) :
    readOn add room stack .value (.openArray :: t :: rest) =
      readOn add (room - 1) (.array [] :: stack) .value (t :: rest) := by
  rw [readOn, if_neg left]
  rintro after same
  exact opens (List.cons.inj same).1

theorem readOn_openObject (key : String) (left : room ≠ 0) :
    readOn add room stack .value (.openObject :: .string (Quoted.escape (ofText key)) :: .colon :: rest) =
      readOn add (room - 1) (.object [] key :: stack) .value rest := by
  simp [readOn, left, Quoted.decode?_escape]

theorem readOn_comma {acc : List (String × Value)} {key next : String} {v : Value} :
    readOn add room (.object acc key :: stack) (.done v)
        (.comma :: .string (Quoted.escape (ofText next)) :: .colon :: rest) =
      readOn add room (.object (add key v acc) next :: stack) .value rest := by
  simp [readOn, Quoted.decode?_escape]

/-- No value starts with a closing bracket. -/
theorem tokens_eq_cons {v : Value} (plain : v.Plain) : ∃ t ts, v.tokens = t :: ts ∧ t ≠ .closeArray := by
  cases v with
  | number n =>
    cases n with
    | integer n => exact ⟨_, _, rfl, nofun⟩
    | decimal => exact absurd plain id
  | _ => exact ⟨_, _, rfl, nofun⟩

theorem tokensOfItems_eq_cons {v : Value} (more : List Value) (plain : v.Plain) :
    ∃ t ts, tokensOfItems (v :: more) = t :: ts ∧ t ≠ .closeArray := by
  obtain ⟨t, ts, tokens, opens⟩ := tokens_eq_cons plain
  cases more with
  | nil => exact ⟨t, ts, tokens, opens⟩
  | cons w more => exact ⟨t, ts ++ .comma :: tokensOfItems (w :: more), by simp [tokensOfItems, tokens], opens⟩

end

/-- Reading on at an object's first member goes on after its last one. -/
def ReadsMembers (add : Adder) (room : Nat) : List (String × Value) → Prop
  | [] => True
  | (key, v) :: more => ∃ ts,
    tokensOfMembers ((key, v) :: more) = .string (Quoted.escape (ofText key)) :: .colon :: ts ∧
    ∀ (acc : List (String × Value)) (stack : List Frame) (rest : List Token),
      (acc.map (·.1) ++ key :: more.map (·.1)).Nodup →
      readOn add room (.object acc key :: stack) .value (ts ++ .closeObject :: rest) =
        readOn add (room + 1) stack (.done (.object (acc ++ (key, v) :: more))) rest

/-- Reading on at an array's first item goes on after its last one. -/
def ReadsItems (add : Adder) (room : Nat) : List Value → Prop
  | [] => True
  | v :: more => ∀ (acc : List Value) (stack : List Frame) (rest : List Token),
    readOn add room (.array acc :: stack) .value (tokensOfItems (v :: more) ++ .closeArray :: rest) =
      readOn add (room + 1) stack (.done (.array (acc.reverse ++ v :: more))) rest

mutual

theorem readOn_tokens {add : Adder} (appends : Appends add) : (v : Value) → v.Plain → (room : Nat) → v.depth ≤ room →
    (stack : List Frame) → (rest : List Token) →
    readOn add room stack .value (v.tokens ++ rest) = readOn add room stack (.done v) rest
  | .null, _, _, _, _, _ => by simp [tokens, readOn, ofToken?]
  | .bool _, _, _, _, _, _ => by simp [tokens, readOn, ofToken?]
  | .number (.integer n), plain, _, _, _, _ => by simp [tokens, readOn, ofToken?, Literal.value?_ofInt plain]
  | .string s, _, _, _, _, _ => by simp [tokens, readOn, ofToken?, Quoted.decode?_escape]
  | .array [], _, room, deep, stack, rest => by
    have left : room ≠ 0 := Nat.ne_of_gt deep
    simp [tokens, tokensOfItems, readOn, left]
  | .array (v :: more), plain, room, deep, stack, rest => by
    have left : room ≠ 0 := Nat.ne_of_gt (Nat.lt_of_lt_of_le (Nat.succ_pos _) deep)
    have inside := readOn_items appends (v :: more) plain (room - 1) (Nat.le_sub_one_of_lt deep) [] stack rest
    obtain ⟨t, ts, first, opens⟩ := tokensOfItems_eq_cons more plain.1
    rw [first, List.cons_append, ← readOn_openArray opens left, Nat.sub_add_cancel (Nat.pos_of_ne_zero left)] at inside
    simpa [tokens, first] using inside
  | .object [], _, room, deep, stack, rest => by
    have left : room ≠ 0 := Nat.ne_of_gt deep
    simp [tokens, tokensOfMembers, readOn, left]
  | .object ((key, v) :: more), plain, room, deep, stack, rest => by
    have left : room ≠ 0 := Nat.ne_of_gt (Nat.lt_of_lt_of_le (Nat.succ_pos _) deep)
    obtain ⟨ts, first, inside⟩ :=
      readOn_members appends ((key, v) :: more) plain.2 (room - 1) (Nat.le_sub_one_of_lt deep)
    have read := inside [] stack rest plain.1
    rw [← readOn_openObject key left, Nat.sub_add_cancel (Nat.pos_of_ne_zero left)] at read
    simpa [tokens, first] using read

theorem readOn_items {add : Adder} (appends : Appends add) : (items : List Value) → PlainItems items → (room : Nat) →
    depthOfItems items ≤ room → ReadsItems add room items
  | [], _, _, _ => trivial
  | [v], plain, room, deep => by
    intro acc stack rest
    have value := readOn_tokens appends v plain.1 room (Nat.le_trans (Nat.le_max_left _ _) deep) (.array acc :: stack)
      (.closeArray :: rest)
    rw [tokensOfItems, value]
    simp [readOn]
  | v :: w :: more, plain, room, deep => by
    intro acc stack rest
    have value := readOn_tokens appends v plain.1 room (Nat.le_trans (Nat.le_max_left _ _) deep) (.array acc :: stack)
      (.comma :: (tokensOfItems (w :: more) ++ .closeArray :: rest))
    have others := readOn_items appends (w :: more) plain.2 room (Nat.le_trans (Nat.le_max_right _ _) deep) (v :: acc)
      stack rest
    rw [tokensOfItems, List.append_assoc, List.cons_append, value, readOn, others]
    simp

theorem readOn_members {add : Adder} (appends : Appends add) : (members : List (String × Value)) →
    PlainMembers members → (room : Nat) → depthOfMembers members ≤ room → ReadsMembers add room members
  | [], _, _, _ => trivial
  | [(key, v)], plain, room, deep => by
    refine ⟨v.tokens, rfl, fun acc stack rest distinct => ?_⟩
    have value := readOn_tokens appends v plain.1 room (Nat.le_trans (Nat.le_max_left _ _) deep)
      (.object acc key :: stack) (.closeObject :: rest)
    have new : key ∉ acc.map (·.1) := fun old =>
      (List.nodup_append.1 distinct).2.2 key old key List.mem_cons_self rfl
    rw [value, readOn, appends key v acc new]
  | (key, v) :: (next, w) :: more, plain, room, deep => by
    obtain ⟨ts, first, others⟩ := readOn_members appends ((next, w) :: more) plain.2 room
      (Nat.le_trans (Nat.le_max_right _ _) deep)
    refine ⟨v.tokens ++ .comma :: tokensOfMembers ((next, w) :: more), rfl, fun acc stack rest distinct => ?_⟩
    have value := readOn_tokens appends v plain.1 room (Nat.le_trans (Nat.le_max_left _ _) deep)
      (.object acc key :: stack) (.comma :: (tokensOfMembers ((next, w) :: more) ++ .closeObject :: rest))
    have new : key ∉ acc.map (·.1) := fun old =>
      (List.nodup_append.1 distinct).2.2 key old key List.mem_cons_self rfl
    have distinct' : ((acc ++ [(key, v)]).map (·.1) ++ next :: more.map (·.1)).Nodup := by
      simpa using distinct
    rw [List.append_assoc, List.cons_append, value, first]
    simp only [List.cons_append]
    rw [readOn_comma, appends key v acc new, others _ stack rest distinct']
    simp

end

theorem ofBytes_nil : Token.ofBytes [] = [] := by
  rw [Token.ofBytes]
  rfl

theorem ofBytes_render_eq {v : Value} (plain : v.Plain) : Token.ofBytes v.render = v.tokens := by
  have all := ofBytes_render v plain [] nofun
  rwa [List.append_nil, ofBytes_nil, List.append_nil] at all

theorem read?_render {add : Adder} (appends : Appends add) {v : Value} (plain : v.Plain) (deep : v.depth ≤ maxDepth) :
    read? add v.render = some v := by
  have read := readOn_tokens appends v plain maxDepth deep [] []
  rw [List.append_nil] at read
  rw [read?, ofBytes_render_eq plain, read]
  simp [readOn]

theorem parse?_render {v : Value} (plain : v.Plain) (deep : v.depth ≤ maxDepth) : parse? v.render = some v :=
  read?_render appends_setMember plain deep

/-! ### The written value is a text -/

mutual

theorem isText_render : (v : Value) → IsText v.render
  | .null => isText_ofText "null"
  | .bool true => isText_ofText "true"
  | .bool false => isText_ofText "false"
  | .number n => isText_ofText n.text
  | .string s => Quoted.isText_encode s
  | .array items => ((isText_ofText "[").append (isText_renderItems items)).append (isText_ofText "]")
  | .object members => ((isText_ofText "\x7b").append (isText_renderMembers members)).append (isText_ofText "\x7d")

theorem isText_renderItems : (items : List Value) → IsText (renderItems items)
  | [] => isText_ofText ""
  | [v] => isText_render v
  | v :: w :: more =>
    (isText_render v).append ((isText_ofText ",").append (isText_renderItems (w :: more)))

theorem isText_renderMembers : (members : List (String × Value)) → IsText (renderMembers members)
  | [] => isText_ofText ""
  | [(key, v)] => (Quoted.isText_encode key).append ((isText_ofText ":").append (isText_render v))
  | (key, v) :: m :: more => by
    have first := (Quoted.isText_encode key).append ((isText_ofText ":").append (isText_render v))
    have all := first.append ((isText_ofText ",").append (isText_renderMembers (m :: more)))
    exact all

end

theorem ofText_compact (v : Value) : ofText v.compact = v.render := (isText_render v).ofText_text?

end Accounts.Json.Value
