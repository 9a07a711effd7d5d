import Accounts.Text.Bytes
/-! Decimal integers in text: reading with a reason for each refusal, and zero-padded writing. -/
namespace Accounts.Decimal

inductive Fault
  | empty
  | badDigit
  | tooLarge
  | tooSmall
  deriving DecidableEq, Repr

def digit? (c : Char) : Option Nat := if c.isDigit then some (c.toNat - '0'.toNat) else none

/-- Digits in order; the first one that is no digit, or leaves the range, decides. -/
private def upward (high : Nat) (value : Nat) : List Char → Except Fault Nat
  | [] => .ok value
  | c :: rest =>
    match digit? c with
    | none => .error .badDigit
    | some d => if high < value * 10 + d then .error .tooLarge else upward high (value * 10 + d) rest

/-- The same below zero, where `low` is the largest magnitude. -/
private def downward (low : Nat) (value : Nat) : List Char → Except Fault Nat
  | [] => .ok value
  | c :: rest =>
    match digit? c with
    | none => .error .badDigit
    | some d => if low < value * 10 + d then .error .tooSmall else downward low (value * 10 + d) rest

/-- An unsigned integer with an optional plus sign. -/
def natural (high : Nat) (s : String) : Except Fault Nat :=
  match s.toList with
  | [] => .error .empty
  | ['+'] => .error .badDigit
  | '+' :: digits => upward high 0 digits
  | digits => upward high 0 digits

/-- A signed integer between `-low` and `high`. -/
def integer (low high : Nat) (s : String) : Except Fault Int :=
  match s.toList with
  | [] => .error .empty
  | ['+'] => .error .badDigit
  | ['-'] => .error .badDigit
  | '+' :: digits => (upward high 0 digits).map Int.ofNat
  | '-' :: digits => (downward low 0 digits).map (fun n => -(n : Int))
  | digits => (upward high 0 digits).map Int.ofNat

private theorem upward_le {high value n : Nat} {cs : List Char} (start : value ≤ high)
    (read : upward high value cs = .ok n) : n ≤ high := by
  induction cs generalizing value with
  | nil =>
    obtain rfl := Except.ok.inj read
    exact start
  | cons c cs ih =>
    simp only [upward] at read
    split at read
    · cases read
    · split at read
      · cases read
      · next small => exact ih (Nat.le_of_not_lt small) read

/-- Below zero the same digits are read, with another fault at the end of the range. -/
private theorem downward_ok {low value n : Nat} {cs : List Char} (read : downward low value cs = .ok n) :
    upward low value cs = .ok n := by
  induction cs generalizing value with
  | nil => exact read
  | cons c cs ih =>
    simp only [downward] at read
    simp only [upward]
    split at read
    · cases read
    · split at read
      · cases read
      · next small => rw [if_neg small, ih read]

theorem integer_bounds {low high : Nat} {s : String} {n : Int} (read : integer low high s = .ok n) :
    -(low : Int) ≤ n ∧ n ≤ high := by
  have above {cs : List Char} (read : (upward high 0 cs).map Int.ofNat = .ok n) : -(low : Int) ≤ n ∧ n ≤ high := by
    cases digits : upward high 0 cs with
    | error e =>
      rw [digits] at read
      cases read
    | ok m =>
      rw [digits] at read
      have small := upward_le (Nat.zero_le high) digits
      have same : (m : Int) = n := Except.ok.inj read
      omega
  have below {cs : List Char} (read : (downward low 0 cs).map (fun n => -(n : Int)) = .ok n) :
      -(low : Int) ≤ n ∧ n ≤ high := by
    cases digits : downward low 0 cs with
    | error e =>
      rw [digits] at read
      cases read
    | ok m =>
      rw [digits] at read
      have small := upward_le (Nat.zero_le low) (downward_ok digits)
      have same : -(m : Int) = n := Except.ok.inj read
      omega
  unfold integer at read
  split at read
  · cases read
  · cases read
  · cases read
  · exact above read
  · exact below read
  · exact above read

def padded (width n : Nat) : String :=
  let digits := toString n
  String.ofList (List.replicate (width - digits.length) '0') ++ digits

def maxU16 : Nat := 65535

def maxU32 : Nat := 4294967295

def maxU64 : Nat := 18446744073709551615

def maxI64 : Nat := 9223372036854775807

def int64 (s : String) : Except Fault Int := integer (maxI64 + 1) maxI64 s

end Accounts.Decimal
