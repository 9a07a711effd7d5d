import Accounts.Json.Number
import Accounts.Json.Quoted
/-! JSON text as a list of tokens. A place that starts no token ends the list with `bad`. -/
namespace Accounts.Json

inductive Token
  | openObject
  | closeObject
  | openArray
  | closeArray
  | comma
  | colon
  | null
  | bool (b : Bool)
  | number (l : Literal)
  | string (inside : Bytes)
  | bad
  deriving DecidableEq

namespace Token

def isSpace (b : UInt8) : Bool := b = 0x20 || b = 0x09 || b = 0x0A || b = 0x0D

/-- This word at the start, for the token `t`. -/
private def word? (t : Token) (word : String) (bs : Bytes) : Option (Token × Bytes) :=
  let w := Bytes.ofText word
  if bs.take w.length = w then some (t, bs.drop w.length) else none

/-- The token that starts here, where no white space stands. -/
def split? : Bytes → Option (Token × Bytes)
  | [] => none
  | b :: rest =>
    match Char.ofUInt8 b with
    | '{' => some (.openObject, rest)
    | '}' => some (.closeObject, rest)
    | '[' => some (.openArray, rest)
    | ']' => some (.closeArray, rest)
    | ',' => some (.comma, rest)
    | ':' => some (.colon, rest)
    | '"' => (Quoted.split? rest).map fun (inside, rest) => (.string inside, rest)
    | 'n' => word? .null "ull" rest
    | 't' => word? (.bool true) "rue" rest
    | 'f' => word? (.bool false) "alse" rest
    | _ => (Literal.split? (b :: rest)).map fun (l, rest) => (.number l, rest)

private theorem word?_length {t t' : Token} {w : String} {bs rest : Bytes}
    (h : word? t w bs = some (t', rest)) : rest.length ≤ bs.length := by
  unfold word? at h
  dsimp only at h
  split at h
  · injection h with h
    injection h with _ h
    simp [← h]
  · simp at h

theorem split?_length {bs rest : Bytes} {t : Token} (h : split? bs = some (t, rest)) :
    rest.length < bs.length := by
  unfold split? at h
  split at h
  · simp at h
  · next b more =>
    split at h
    · obtain ⟨-, rfl⟩ : _ ∧ more = rest := by simpa using h
      simp
    · obtain ⟨-, rfl⟩ : _ ∧ more = rest := by simpa using h
      simp
    · obtain ⟨-, rfl⟩ : _ ∧ more = rest := by simpa using h
      simp
    · obtain ⟨-, rfl⟩ : _ ∧ more = rest := by simpa using h
      simp
    · obtain ⟨-, rfl⟩ : _ ∧ more = rest := by simpa using h
      simp
    · obtain ⟨-, rfl⟩ : _ ∧ more = rest := by simpa using h
      simp
    · obtain ⟨⟨inside, after⟩, hs, he⟩ := Option.map_eq_some_iff.1 h
      injection he with _ he
      subst he
      exact Nat.lt_succ_of_lt (Quoted.split?_length hs)
    · exact Nat.lt_succ_of_le (word?_length h)
    · exact Nat.lt_succ_of_le (word?_length h)
    · exact Nat.lt_succ_of_le (word?_length h)
    · obtain ⟨⟨l, after⟩, hs, he⟩ := Option.map_eq_some_iff.1 h
      injection he with _ he
      subst he
      exact Literal.split?_length hs

private theorem word?_append {t t' : Token} {w : String} {bs r : Bytes} (h : word? t w bs = some (t', r)) (rest : Bytes) :
    word? t w (bs ++ rest) = some (t', r ++ rest) := by
  unfold word? at h ⊢
  dsimp only at h ⊢
  split at h
  · next same =>
    cases h
    have long : (Bytes.ofText w).length ≤ bs.length := by
      have taken := congrArg List.length same
      rw [List.length_take] at taken
      omega
    rw [List.take_append_of_le_length long, if_pos same, List.drop_append_of_le_length long]
  · cases h

/-- A token is found as well if more follows, with which it does not go on. -/
theorem split?_append {bs r rest : Bytes} {t : Token} (h : split? bs = some (t, r))
    (ends : ∀ l, t = .number l → Literal.Ends rest) : split? (bs ++ rest) = some (t, r ++ rest) := by
  cases bs with
  | nil => cases h
  | cons b bs =>
    simp only [split?, List.cons_append] at h ⊢
    split at h
    case h_7 =>
      obtain ⟨⟨inside, after⟩, found, same⟩ := Option.map_eq_some_iff.1 h
      cases same
      rw [Quoted.split?_append found rest]
      rfl
    case h_11 =>
      obtain ⟨⟨l, after⟩, found, same⟩ := Option.map_eq_some_iff.1 h
      cases same
      have more := Literal.split?_append found (ends l rfl)
      rw [List.cons_append] at more
      rw [more]
      rfl
    case h_8 | h_9 | h_10 => exact word?_append h rest
    all_goals
      cases h
      rfl

/-- The tokens of a text, white space between them left out. -/
def ofBytes (bs : Bytes) : List Token :=
  match _ : bs.dropWhile isSpace with
  | [] => []
  | b :: rest =>
    match _ : split? (b :: rest) with
    | none => [.bad]
    | some (t, after) => t :: ofBytes after
  termination_by bs.length
  decreasing_by
    have first := split?_length ‹split? _ = _›
    have skipped := (List.dropWhile_sublist (l := bs) isSpace).length_le
    rw [‹bs.dropWhile isSpace = _›] at skipped
    omega

end Token
end Accounts.Json
