import Accounts.Proofs.Json.Number
import Mathlib.Data.Fintype.Basic
import Mathlib.Tactic.FinCases
/-! The tokens of a written value. -/
namespace Accounts.Json

namespace Token

/-- A text between quotes. -/
abbrev ofText (s : String) : Token := .string (Quoted.escape (Bytes.ofText s))

theorem isSpace_of_split? {b : UInt8} {rest after : Bytes} {t : Token} (h : split? (b :: rest) = some (t, after)) :
    isSpace b = false := by
  rw [Bool.eq_false_iff]
  intro space
  simp only [isSpace, Bool.or_eq_true, decide_eq_true_eq] at space
  rcases space with ((rfl | rfl) | rfl) | rfl <;> exact absurd h nofun

section
variable {bs after : Bytes} {t : Token}

theorem ofBytes_of_empty (next : bs.dropWhile isSpace = []) : ofBytes bs = [] := by
  rw [ofBytes]
  split
  · rfl
  · simp_all

theorem ofBytes_of_none {b : UInt8} {more : Bytes} (next : bs.dropWhile isSpace = b :: more)
    (none : split? (b :: more) = none) : ofBytes bs = [.bad] := by
  rw [ofBytes]
  split <;> grind

theorem ofBytes_of_some {b : UInt8} {more : Bytes} (next : bs.dropWhile isSpace = b :: more)
    (found : split? (b :: more) = some (t, after)) : ofBytes bs = t :: ofBytes after := by
  rw [ofBytes]
  split <;> grind

theorem ofBytes_of_split? (h : split? bs = some (t, after)) : ofBytes bs = t :: ofBytes after := by
  cases bs with
  | nil => cases h
  | cons b rest => exact ofBytes_of_some (by simp [isSpace_of_split? h]) h

end

/-- A minus sign or a digit starts a number. -/
theorem split?_number {b : UInt8} (starts : b = '-'.toUInt8 ∨ isDigit b = true) (rest : Bytes) :
    split? (b :: rest) = (Literal.split? (b :: rest)).map fun (l, rest) => (.number l, rest) := by
  rcases starts with rfl | digit
  · rfl
  · simp only [isDigit, Bool.and_eq_true, decide_eq_true_eq, UInt8.le_iff_toNat_le] at digit
    have low : 48 ≤ b.toNat := digit.1
    have high : b.toNat ≤ 57 := digit.2
    obtain ⟨d, same⟩ : ∃ d : Fin 10, b = UInt8.ofNat (48 + d) :=
      ⟨⟨b.toNat - 48, by omega⟩, by simp [show 48 + (b.toNat - 48) = b.toNat by omega]⟩
    subst same
    fin_cases d <;> rfl

theorem split?_int {n : Int} {rest : Bytes} (ends : Literal.Ends rest) :
    split? (Bytes.ofText (toString n) ++ rest) = some (.number (Literal.ofInt n), rest) := by
  have number := Literal.split?_int (n := n) ends
  obtain ⟨b, more, spelled, starts⟩ : ∃ b more, Bytes.ofText (toString n) = b :: more ∧
      (b = '-'.toUInt8 ∨ isDigit b = true) := by
    rw [ofText_int]
    by_cases negative : n < 0
    · exact ⟨_, digitsOf n.natAbs, by simp [negative], .inl rfl⟩
    · obtain ⟨d, ds, digits⟩ := List.exists_cons_of_ne_nil (digitsOf_ne_nil n.natAbs)
      refine ⟨d, ds, by simp [negative, digits], .inr (isDigit_of_mem_digitsOf (n := n.natAbs) ?_)⟩
      rw [digits]
      exact List.mem_cons_self
  rw [spelled, List.cons_append] at number ⊢
  rw [split?_number starts, number]
  rfl

theorem ofBytes_int {n : Int} {rest : Bytes} (ends : Literal.Ends rest) :
    ofBytes (Bytes.ofText (toString n) ++ rest) = .number (Literal.ofInt n) :: ofBytes rest :=
  ofBytes_of_split? (split?_int ends)

end Token

namespace Value

mutual

def tokens : Value → List Token
  | .null => [.null]
  | .bool b => [.bool b]
  | .number (.integer n) => [.number (Literal.ofInt n)]
  | .number (.decimal _ _ _) => []
  | .string s => [.string (Quoted.escape (Bytes.ofText s))]
  | .array items => .openArray :: tokensOfItems items ++ [.closeArray]
  | .object members => .openObject :: tokensOfMembers members ++ [.closeObject]

def tokensOfItems : List Value → List Token
  | [] => []
  | [v] => tokens v
  | v :: w :: rest => tokens v ++ .comma :: tokensOfItems (w :: rest)

def tokensOfMembers : List (String × Value) → List Token
  | [] => []
  | [(k, v)] => .string (Quoted.escape (Bytes.ofText k)) :: .colon :: tokens v
  | (k, v) :: m :: rest =>
    .string (Quoted.escape (Bytes.ofText k)) :: .colon :: tokens v ++ .comma :: tokensOfMembers (m :: rest)

end

mutual

/-- What is read back as it was: integers of 64 bits, and members of different names. -/
def Plain : Value → Prop
  | .number (.integer n) => InRange n
  | .number (.decimal _ _ _) => False
  | .array items => PlainItems items
  | .object members => (members.map (·.1)).Nodup ∧ PlainMembers members
  | _ => True

def PlainItems : List Value → Prop
  | [] => True
  | v :: rest => Plain v ∧ PlainItems rest

def PlainMembers : List (String × Value) → Prop
  | [] => True
  | (_, v) :: rest => Plain v ∧ PlainMembers rest

end

theorem ends_cons {b : UInt8} {rest : Bytes} (h : isDigit b = false ∧ b ≠ '.'.toUInt8 ∧ b ≠ 'e'.toUInt8 ∧ b ≠ 'E'.toUInt8) :
    Literal.Ends (b :: rest) := by
  intro c mem
  obtain rfl : b = c := by simpa using mem
  exact h

theorem ofBytes_encode (s : String) (rest : Bytes) :
    Token.ofBytes (Quoted.encode s ++ rest) = .string (Quoted.escape (Bytes.ofText s)) :: Token.ofBytes rest := by
  refine Token.ofBytes_of_split? ?_
  have inside := Quoted.split?_escape (Bytes.ofText s) rest
  have spelled : Quoted.encode s ++ rest = '"'.toUInt8 :: (Quoted.escape (Bytes.ofText s) ++ '"'.toUInt8 :: rest) := by
    simp [Quoted.encode]
  rw [spelled]
  change (Quoted.split? _).map _ = _
  rw [inside]
  rfl

theorem ofBytes_comma (rest : Bytes) : Token.ofBytes (','.toUInt8 :: rest) = .comma :: Token.ofBytes rest :=
  Token.ofBytes_of_split? rfl

theorem ofBytes_colon (rest : Bytes) : Token.ofBytes (':'.toUInt8 :: rest) = .colon :: Token.ofBytes rest :=
  Token.ofBytes_of_split? rfl

theorem ends_comma (rest : Bytes) : Literal.Ends (','.toUInt8 :: rest) := ends_cons (by decide)

mutual

theorem ofBytes_render : (v : Value) → v.Plain → (rest : Bytes) → Literal.Ends rest →
    Token.ofBytes (v.render ++ rest) = v.tokens ++ Token.ofBytes rest
  | .null, _, rest, _ => by
    rw [render]
    exact Token.ofBytes_of_split? rfl
  | .bool true, _, rest, _ => Token.ofBytes_of_split? rfl
  | .bool false, _, rest, _ => Token.ofBytes_of_split? rfl
  | .number (.integer n), _, rest, ends => Token.ofBytes_int ends
  | .string s, _, rest, _ => ofBytes_encode s rest
  | .array items, plain, rest, _ => by
    have close : Token.ofBytes (']'.toUInt8 :: rest) = .closeArray :: Token.ofBytes rest :=
      Token.ofBytes_of_split? rfl
    have inside := ofBytes_renderItems items plain (']'.toUInt8 :: rest) (ends_cons (by decide))
    have spelled : render (.array items) ++ rest = '['.toUInt8 :: (renderItems items ++ ']'.toUInt8 :: rest) := by
      simp [render]
    rw [spelled, Token.ofBytes_of_split? (t := .openArray) rfl, inside, close]
    simp [tokens]
  | .object members, plain, rest, _ => by
    have close : Token.ofBytes ('}'.toUInt8 :: rest) = .closeObject :: Token.ofBytes rest :=
      Token.ofBytes_of_split? rfl
    have inside := ofBytes_renderMembers members plain.2 ('}'.toUInt8 :: rest) (ends_cons (by decide))
    have spelled : render (.object members) ++ rest = '{'.toUInt8 :: (renderMembers members ++ '}'.toUInt8 :: rest) := by
      simp [render]
    rw [spelled, Token.ofBytes_of_split? (t := .openObject) rfl, inside, close]
    simp [tokens]

theorem ofBytes_renderItems : (items : List Value) → PlainItems items → (rest : Bytes) → Literal.Ends rest →
    Token.ofBytes (renderItems items ++ rest) = tokensOfItems items ++ Token.ofBytes rest
  | [], _, rest, _ => rfl
  | [v], plain, rest, ends => ofBytes_render v plain.1 rest ends
  | v :: w :: more, plain, rest, ends => by
    have first := ofBytes_render v plain.1 (','.toUInt8 :: (renderItems (w :: more) ++ rest)) (ends_comma _)
    have others := ofBytes_renderItems (w :: more) plain.2 rest ends
    rw [ofBytes_comma, others] at first
    simpa [renderItems, tokensOfItems] using first

theorem ofBytes_renderMembers : (members : List (String × Value)) → PlainMembers members → (rest : Bytes) →
    Literal.Ends rest → Token.ofBytes (renderMembers members ++ rest) = tokensOfMembers members ++ Token.ofBytes rest
  | [], _, rest, _ => rfl
  | [(k, v)], plain, rest, ends => by
    have value := ofBytes_render v plain.1 rest ends
    have name := ofBytes_encode k (':'.toUInt8 :: (render v ++ rest))
    rw [ofBytes_colon, value] at name
    simpa [renderMembers, tokensOfMembers] using name
  | (k, v) :: m :: more, plain, rest, ends => by
    have others := ofBytes_renderMembers (m :: more) plain.2 rest ends
    have value := ofBytes_render v plain.1 (','.toUInt8 :: (renderMembers (m :: more) ++ rest)) (ends_comma _)
    have name := ofBytes_encode k (':'.toUInt8 :: (render v ++ ','.toUInt8 :: (renderMembers (m :: more) ++ rest)))
    rw [ofBytes_colon, value, ofBytes_comma, others] at name
    simpa [renderMembers, tokensOfMembers] using name

end

end Value
end Accounts.Json
