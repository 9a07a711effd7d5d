import Accounts.Json.Value
/-! Reading tokens into values of known types. Text that is no JSON is `malformed`; JSON of another shape is
`mismatched`. Tokens are taken in order, and the first fault counts. -/
namespace Accounts.Json

inductive Fault
  | malformed
  | mismatched
  deriving DecidableEq, Repr

/-- Takes one value, and so at least one token, from the front. -/
structure Reader (α : Type) where
  read : List Token → Except Fault (α × List Token)
  shorter : ∀ {ts a rest}, read ts = .ok (a, rest) → rest.length < ts.length

/-- What is wrong with a value that starts with this token, where another kind is wanted. -/
def Token.mismatch : Token → Fault
  | .null => .mismatched
  | .bool _ => .mismatched
  | .openArray => .mismatched
  | .openObject => .mismatched
  | .number l => if l.value?.isSome then .mismatched else .malformed
  | .string inside => if (Quoted.decode? inside).isSome then .mismatched else .malformed
  | _ => .malformed

inductive Bracket
  | array
  | object

/-- Passes over a value below open brackets: `true` where one has to start. Strings need not be
UTF-8, and numbers may have any size. -/
def skipOn : List Bracket → Bool → List Token → Option (List Token)
  | [], false, rest => some rest
  | .array :: stack, false, .comma :: rest => skipOn (.array :: stack) true rest
  | .array :: stack, false, .closeArray :: rest => skipOn stack false rest
  | .object :: stack, false, .comma :: .string _ :: .colon :: rest => skipOn (.object :: stack) true rest
  | .object :: stack, false, .closeObject :: rest => skipOn stack false rest
  | stack, true, .openArray :: .closeArray :: rest => skipOn stack false rest
  | stack, true, .openArray :: rest => skipOn (.array :: stack) true rest
  | stack, true, .openObject :: .closeObject :: rest => skipOn stack false rest
  | stack, true, .openObject :: .string _ :: .colon :: rest => skipOn (.object :: stack) true rest
  | stack, true, .null :: rest => skipOn stack false rest
  | stack, true, .bool _ :: rest => skipOn stack false rest
  | stack, true, .number _ :: rest => skipOn stack false rest
  | stack, true, .string _ :: rest => skipOn stack false rest
  | _, _, _ => none

theorem skipOn_length {stack : List Bracket} {start : Bool} {ts rest : List Token}
    (h : skipOn stack start ts = some rest) :
    rest.length ≤ ts.length ∧ (start = true → rest.length < ts.length) := by
  fun_induction skipOn stack start ts <;> simp_all <;> omega

namespace Reader
variable {α β : Type}

def scalar (f : Token → Except Fault α) : Reader α where
  read
    | [] => .error .malformed
    | t :: rest => (f t).map (·, rest)
  shorter := by
    intro ts a rest h
    cases ts with
    | nil => simp at h
    | cons t ts =>
      cases ht : f t with
      | error e => simp [ht, Except.map] at h
      | ok b => simp [ht, Except.map] at h; simp [← h.2]

/-- Its value changed, or refused as mismatched. -/
def refine (r : Reader α) (f : α → Option β) : Reader β where
  read ts :=
    match r.read ts with
    | .error e => .error e
    | .ok (a, rest) =>
      match f a with
      | none => .error .mismatched
      | some b => .ok (b, rest)
  shorter := by
    intro ts b rest h
    split at h
    · simp at h
    · next a after ha =>
      split at h
      · simp at h
      · simp only [Except.ok.injEq, Prod.mk.injEq] at h
        exact h.2 ▸ r.shorter ha

def map (f : α → β) (r : Reader α) : Reader β := r.refine (some ∘ f)

def text : Reader String := scalar fun
  | .string inside =>
    match Quoted.decode? inside with
    | some s => .ok s
    | none => .error .malformed
  | t => .error t.mismatch

def flag : Reader Bool := scalar fun
  | .bool b => .ok b
  | t => .error t.mismatch

/-- An integer, spelled as one, from `low` to `high`. -/
def integer (low high : Int) : Reader Int := scalar fun
  | .number l =>
    match l.value? with
    | some (.integer n) => if low ≤ n && n ≤ high then .ok n else .error .mismatched
    | some _ => .error .mismatched
    | none => .error .malformed
  | t => .error t.mismatch

def int64 : Reader Int := integer (-9223372036854775808) 9223372036854775807

def nullable (r : Reader α) : Reader (Option α) where
  read
    | .null :: rest => .ok (none, rest)
    | ts => (r.map some).read ts
  shorter := by
    intro ts a rest h
    split at h
    · simp only [Except.ok.injEq, Prod.mk.injEq] at h
      simp [← h.2]
    · exact (r.map some).shorter h

/-- One of the names that `f` knows, alone or as the name of an object's only member, which is null. -/
def choice (f : String → Option α) : Reader α where
  read
    | .openObject :: name :: .colon :: .null :: .closeObject :: rest =>
      ((text.refine f).read [name]).map fun (a, _) => (a, rest)
    | ts => (text.refine f).read ts
  shorter := by
    intro ts a rest h
    split at h
    · next name after =>
      cases hn : (text.refine f).read [name] with
      | error e => simp [hn, Except.map] at h
      | ok b => simp [hn, Except.map] at h; simp [← h.2]; omega
    · exact (text.refine f).shorter h

def ignored : Reader Unit where
  read ts :=
    match skipOn [] true ts with
    | none => .error .malformed
    | some rest => .ok ((), rest)
  shorter := by
    intro ts a rest h
    split at h
    · simp at h
    · next after hs =>
      simp only [Except.ok.injEq, Prod.mk.injEq, true_and] at h
      exact h ▸ (skipOn_length hs).2 rfl

def parse (r : Reader α) (text : Bytes) : Except Fault α :=
  match r.read (Token.ofBytes text) with
  | .error e => .error e
  | .ok (a, []) => .ok a
  | .ok (_, _ :: _) => .error .malformed

end Reader
end Accounts.Json
