import Accounts.Text.Bytes
/-! JSON numbers: how one is spelled, and which value that is. -/
namespace Accounts.Json

def isDigit (b : UInt8) : Bool := '0'.toUInt8 ≤ b && b ≤ '9'.toUInt8

def ofDigits (ds : Bytes) : Nat := ds.foldl (fun n d => n * 10 + (d - '0'.toUInt8).toNat) 0

/-- A number as it is spelled: its digits before and after the point, and its exponent. -/
structure Literal where
  negative : Bool
  whole : Bytes
  fraction : Option Bytes
  exponent : Option (Bool × Bytes)
  deriving DecidableEq

/-- Integers of 64 bits are exact; all other numbers stand for `± digits * 10 ^ exponent`. -/
inductive Number
  | integer (n : Int)
  | decimal (negative : Bool) (digits : Nat) (exponent : Int)
  deriving DecidableEq

namespace Literal

/-- Digits before the rest, of which there has to be one. -/
private def digits? (bs : Bytes) : Option (Bytes × Bytes) :=
  let ds := bs.takeWhile isDigit
  if ds.isEmpty then none else some (ds, bs.dropWhile isDigit)

/-- Digits that start with a zero only when there is just one. -/
private def whole? (bs : Bytes) : Option (Bytes × Bytes) := do
  let (ds, rest) ← digits? bs
  if ds.head? = some '0'.toUInt8 && ds.length ≠ 1 then none else some (ds, rest)

private def fraction? : Bytes → Option (Option Bytes × Bytes)
  | b :: rest =>
    if b = '.'.toUInt8 then (digits? rest).map fun (ds, rest) => (some ds, rest)
    else some (none, b :: rest)
  | [] => some (none, [])

/-- The sign of an exponent, true if negative. -/
private def sign : Bytes → Bool × Bytes
  | b :: rest =>
    if b = '-'.toUInt8 then (true, rest) else if b = '+'.toUInt8 then (false, rest) else (false, b :: rest)
  | [] => (false, [])

private def exponent? : Bytes → Option (Option (Bool × Bytes) × Bytes)
  | b :: rest =>
    if b = 'e'.toUInt8 || b = 'E'.toUInt8 then
      (digits? (sign rest).2).map fun (ds, after) => (some ((sign rest).1, ds), after)
    else some (none, b :: rest)
  | [] => some (none, [])

private def unsigned? (negative : Bool) (bs : Bytes) : Option (Literal × Bytes) := do
  let (whole, rest) ← whole? bs
  let (fraction, rest) ← fraction? rest
  let (exponent, rest) ← exponent? rest
  return (⟨negative, whole, fraction, exponent⟩, rest)

/-- The longest number at the start; a point or an exponent without digits is refused. -/
def split? : Bytes → Option (Literal × Bytes)
  | b :: rest => if b = '-'.toUInt8 then unsigned? true rest else unsigned? false (b :: rest)
  | [] => none

private theorem digits?_length {bs ds rest : Bytes} (h : digits? bs = some (ds, rest)) :
    rest.length < bs.length := by
  unfold digits? at h
  dsimp only at h
  split at h
  · simp at h
  · next ne =>
    injection h with h
    injection h with h1 h2
    have whole := congrArg List.length (List.takeWhile_append_dropWhile (p := isDigit) (l := bs))
    rw [h1, h2, List.length_append] at whole
    have : ds.length ≠ 0 := by
      intro zero
      exact ne (by simpa [h1] using zero)
    omega

private theorem fraction?_length {bs rest : Bytes} {f : Option Bytes}
    (h : fraction? bs = some (f, rest)) : rest.length ≤ bs.length := by
  unfold fraction? at h
  split at h
  · split at h
    · obtain ⟨⟨ds, after⟩, hd, he⟩ := Option.map_eq_some_iff.1 h
      injection he with _ he
      subst he
      have := digits?_length hd
      simp; omega
    · injection h with h
      injection h with _ h
      simp [← h]
  · injection h with h
    injection h with _ h
    simp [← h]

private theorem sign_length (bs : Bytes) : (sign bs).2.length ≤ bs.length := by
  unfold sign
  split
  · split
    · simp
    · split <;> simp
  · simp

private theorem exponent?_length {bs rest : Bytes} {e : Option (Bool × Bytes)}
    (h : exponent? bs = some (e, rest)) : rest.length ≤ bs.length := by
  unfold exponent? at h
  split at h
  · next b more =>
    split at h
    · obtain ⟨⟨ds, after⟩, hd, he⟩ := Option.map_eq_some_iff.1 h
      injection he with _ he
      subst he
      have := digits?_length hd
      have := sign_length more
      simp; omega
    · injection h with h
      injection h with _ h
      simp [← h]
  · injection h with h
    injection h with _ h
    simp [← h]

private theorem unsigned?_length {negative : Bool} {bs rest : Bytes} {l : Literal}
    (h : unsigned? negative bs = some (l, rest)) : rest.length < bs.length := by
  simp only [unsigned?, whole?, Option.bind_eq_bind, Option.bind_eq_some_iff, Option.pure_def] at h
  obtain ⟨⟨w, r1⟩, ⟨⟨ds, r0⟩, hd, hw⟩, ⟨f, r2⟩, hf, ⟨e, r3⟩, he, hr⟩ := h
  have first : r0.length < bs.length := digits?_length hd
  have same : r0 = r1 := by
    split at hw <;> simp at hw
    exact hw.2
  injection hr with hr
  injection hr with _ hr
  subst same hr
  have second : r2.length ≤ r0.length := fraction?_length hf
  exact Nat.lt_of_le_of_lt (Nat.le_trans (exponent?_length he) second) first

theorem split?_length {bs rest : Bytes} {l : Literal} (h : split? bs = some (l, rest)) :
    rest.length < bs.length := by
  unfold split? at h
  split at h
  · split at h
    · have := unsigned?_length h
      simp; omega
    · exact unsigned?_length h
  · simp at h

/-- Nothing that a number goes on with stands here. -/
def Ends (rest : Bytes) : Prop :=
  ∀ b ∈ rest.head?, isDigit b = false ∧ b ≠ '.'.toUInt8 ∧ b ≠ 'e'.toUInt8 ∧ b ≠ 'E'.toUInt8

private theorem unsigned?_digits (negative : Bool) {ds rest : Bytes} (digits : ∀ d ∈ ds, isDigit d = true)
    (some_ : ds ≠ []) (first : ds.head? = some '0'.toUInt8 → ds.length = 1) (ends : Ends rest) :
    unsigned? negative (ds ++ rest) = some (⟨negative, ds, none, none⟩, rest) := by
  have stop : rest.takeWhile isDigit = [] ∧ rest.dropWhile isDigit = rest := by
    cases rest with
    | nil => exact ⟨rfl, rfl⟩
    | cons b rest => simp [(ends b rfl).1]
  have run : digits? (ds ++ rest) = some (ds, rest) := by
    simp [digits?, List.takeWhile_append_of_pos digits, List.dropWhile_append_of_pos digits, stop.1, stop.2, some_]
  have whole : whole? (ds ++ rest) = some (ds, rest) := by
    simp only [whole?, run, Option.bind_eq_bind, Option.bind_some]
    refine if_neg fun both => ?_
    simp only [Bool.and_eq_true, decide_eq_true_eq] at both
    exact both.2 (first both.1)
  have noFraction : fraction? rest = some (none, rest) := by
    cases rest with
    | nil => rfl
    | cons b rest => simp [fraction?, (ends b rfl).2.1]
  have noExponent : exponent? rest = some (none, rest) := by
    cases rest with
    | nil => rfl
    | cons b rest => simp [exponent?, (ends b rfl).2.2.1, (ends b rfl).2.2.2]
  simp [unsigned?, whole, noFraction, noExponent]

/-- Digits, with a minus sign or not, are a number up to their end. -/
theorem split?_digits (negative : Bool) {ds rest : Bytes} (digits : ∀ d ∈ ds, isDigit d = true) (some_ : ds ≠ [])
    (first : ds.head? = some '0'.toUInt8 → ds.length = 1) (ends : Ends rest) :
    split? ((if negative then ['-'.toUInt8] else []) ++ ds ++ rest) = some (⟨negative, ds, none, none⟩, rest) := by
  have read := unsigned?_digits negative digits some_ first ends
  cases negative with
  | true => simpa [split?] using read
  | false =>
    cases ds with
    | nil => exact absurd rfl some_
    | cons d ds =>
      have plain : d ≠ '-'.toUInt8 := by
        rintro rfl
        exact absurd (digits _ List.mem_cons_self) (by decide)
      simpa [split?, plain] using read

/-- The digits before the end of a number are those before what follows. -/
private theorem digits_append (bs : Bytes) {rest : Bytes} (ends : Ends rest) :
    (bs ++ rest).takeWhile isDigit = bs.takeWhile isDigit ∧
      (bs ++ rest).dropWhile isDigit = bs.dropWhile isDigit ++ rest := by
  induction bs with
  | nil =>
    cases rest with
    | nil => exact ⟨rfl, rfl⟩
    | cons b rest => simp [(ends b rfl).1]
  | cons b bs ih =>
    by_cases digit : isDigit b = true
    · simp [digit, ih.1, ih.2]
    · simp [digit]

private theorem digits?_append {bs ds r rest : Bytes} (h : digits? bs = some (ds, r)) (ends : Ends rest) :
    digits? (bs ++ rest) = some (ds, r ++ rest) := by
  have same := digits_append bs ends
  unfold digits? at h ⊢
  dsimp only at h ⊢
  rw [same.1, same.2]
  split at h
  · cases h
  · next found =>
    rw [if_neg found]
    cases h
    rfl

private theorem whole?_append {bs ds r rest : Bytes} (h : whole? bs = some (ds, r)) (ends : Ends rest) :
    whole? (bs ++ rest) = some (ds, r ++ rest) := by
  simp only [whole?, Option.bind_eq_bind, Option.bind_eq_some_iff] at h
  obtain ⟨⟨digits, after⟩, found, checked⟩ := h
  dsimp only at checked
  split at checked
  · cases checked
  · next fine =>
    cases checked
    simp only [whole?, digits?_append found ends, Option.bind_eq_bind, Option.bind_some]
    exact if_neg fine

private theorem fraction?_append {bs r rest : Bytes} {f : Option Bytes} (h : fraction? bs = some (f, r))
    (ends : Ends rest) : fraction? (bs ++ rest) = some (f, r ++ rest) := by
  cases bs with
  | nil =>
    cases h
    cases rest with
    | nil => rfl
    | cons b rest => simp [fraction?, (ends b rfl).2.1]
  | cons b bs =>
    simp only [fraction?, List.cons_append] at h ⊢
    split at h
    · next point =>
      obtain ⟨⟨ds, after⟩, found, same⟩ := Option.map_eq_some_iff.1 h
      cases same
      rw [if_pos point, digits?_append found ends]
      rfl
    · next other =>
      cases h
      exact if_neg other

private theorem exponent?_append {bs r rest : Bytes} {e : Option (Bool × Bytes)} (h : exponent? bs = some (e, r))
    (ends : Ends rest) : exponent? (bs ++ rest) = some (e, r ++ rest) := by
  cases bs with
  | nil =>
    cases h
    cases rest with
    | nil => rfl
    | cons b rest => simp [exponent?, (ends b rfl).2.2.1, (ends b rfl).2.2.2]
  | cons b bs =>
    simp only [exponent?, List.cons_append] at h ⊢
    split at h
    · next letter =>
      obtain ⟨⟨ds, after⟩, found, same⟩ := Option.map_eq_some_iff.1 h
      cases same
      -- digits follow the letter, so that a sign is found where one was
      have signed : sign (bs ++ rest) = ((sign bs).1, (sign bs).2 ++ rest) := by
        cases bs with
        | nil => cases found
        | cons c bs =>
          simp only [sign, List.cons_append]
          split
          · rfl
          · split <;> rfl
      rw [if_pos letter, signed, digits?_append found ends]
      rfl
    · next other =>
      cases h
      exact if_neg other

private theorem unsigned?_append {negative : Bool} {bs r rest : Bytes} {l : Literal}
    (h : unsigned? negative bs = some (l, r)) (ends : Ends rest) :
    unsigned? negative (bs ++ rest) = some (l, r ++ rest) := by
  simp only [unsigned?, Option.bind_eq_bind, Option.bind_eq_some_iff, Option.pure_def] at h
  obtain ⟨⟨w, r1⟩, whole, ⟨f, r2⟩, fraction, ⟨e, r3⟩, exponent, same⟩ := h
  cases same
  simp only [unsigned?, whole?_append whole ends, fraction?_append fraction ends, exponent?_append exponent ends,
    Option.bind_eq_bind, Option.bind_some, Option.pure_def]

/-- A number is found as well before what it cannot go on with. -/
theorem split?_append {bs r rest : Bytes} {l : Literal} (h : split? bs = some (l, r)) (ends : Ends rest) :
    split? (bs ++ rest) = some (l, r ++ rest) := by
  cases bs with
  | nil => cases h
  | cons b bs =>
    simp only [split?, List.cons_append] at h ⊢
    split at h
    · next minus =>
      rw [if_pos minus]
      exact unsigned?_append h ends
    · next digit =>
      rw [if_neg digit]
      exact unsigned?_append h ends

/-- The greatest significand: that of 64 bits. -/
def maxSignificand : Nat := 18446744073709551615

/-- Digits put after those of `n` while the significand has room for them, and how many they are. -/
def fill (n : Nat) : Bytes → Nat × Nat
  | [] => (n, 0)
  | d :: ds =>
    let next := n * 10 + (d - '0'.toUInt8).toNat
    if next ≤ maxSignificand then
      let more := fill next ds
      (more.1, more.2 + 1)
    else (n, 0)

/-- The digits before the point that count. -/
def head (l : Literal) : Nat × Nat := fill 0 l.whole

/-- These and the digits after the point that count. -/
def filled (l : Literal) : Nat × Nat := fill l.head.1 (l.fraction.getD [])

/-- The digits as one number; those for which there is no room are left out. -/
def significand (l : Literal) : Nat := l.filled.1

/-- The power of ten that is written after the digits. -/
def exponentValue (l : Literal) : Int :=
  match l.exponent with
  | none => 0
  | some (true, ds) => -(ofDigits ds : Int)
  | some (false, ds) => (ofDigits ds : Int)

/-- The power of ten that belongs to the significand. -/
def scale (l : Literal) : Int := l.exponentValue + ((l.whole.length - l.head.2 : Nat) : Int) - (l.filled.2 : Int)

/-- The number of 53 binary digits and zeros after them that is nearest; of two as near, the even one. -/
def nearestDouble (n : Nat) : Nat :=
  let unit := Nat.pow 2 (n.log2 - 52)
  let down := n / unit
  let rest := n % unit
  if 2 * rest < unit || (2 * rest = unit && down % 2 = 0) then down * unit else (down + 1) * unit

/-- The least magnitude that rounds beyond the doubles. -/
def beyondDouble : Nat := Nat.pow 2 1024 - Nat.pow 2 970

/-- Whether the magnitude is one of a double, if significand and power of ten are doubles themselves before they
are multiplied. -/
def fitsDouble (l : Literal) : Bool :=
  l.significand = 0 || l.scale < 0 ||
    (l.scale ≤ 308 && nearestDouble l.significand * nearestDouble (Nat.pow 10 l.scale.toNat) < beyondDouble)

/-- Whether the exponent is beyond 32 bits before its last digit. -/
def overruns (l : Literal) : Bool :=
  match l.exponent with
  | some (false, ds) => l.significand ≠ 0 && 2147483647 < ofDigits ds.dropLast
  | _ => false

def isInteger (l : Literal) : Bool := l.fraction.isNone && l.exponent.isNone

/-- The integer that the digits before the point write. -/
def toInt (l : Literal) : Int :=
  if l.negative then -(ofDigits l.whole : Int) else ofDigits l.whole

/-- The value, unless it is beyond the doubles. A negative zero is no integer. -/
def value? (l : Literal) : Option Number :=
  if l.isInteger && -9223372036854775808 ≤ l.toInt && l.toInt ≤ 18446744073709551615 && !(l.negative && l.toInt = 0) then
    some (.integer l.toInt)
  else if l.fitsDouble then some (.decimal l.negative l.significand l.scale)
  else none

end Literal
end Accounts.Json
