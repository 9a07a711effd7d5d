import Accounts.Json.Value
import Accounts.Proofs.Text.Utf8
import Mathlib.Data.List.Basic
/-! Integers are read back from their decimal digits. -/
namespace Accounts.Json

def digitsOf (n : Nat) : Bytes := (Nat.toDigits 10 n).map Char.toUInt8

theorem isDigit_of_mem {n : Nat} {c : Char} (mem : c ∈ Nat.toDigits 10 n) : 48 ≤ c.toNat ∧ c.toNat ≤ 57 := by
  have digit := Nat.isDigit_of_mem_toDigits (by decide) (by decide) mem
  simpa [Char.isDigit, UInt32.le_iff_toNat_le] using digit

theorem toNat_toUInt8 {c : Char} (small : c.toNat ≤ 127) : c.toUInt8.toNat = c.toNat := by
  have : c.toUInt8.toNat = c.toNat % 256 := rfl
  omega

theorem ofText_nat (n : Nat) : Bytes.ofText (toString n) = digitsOf n := by
  rw [Nat.toString_eq_ofList_toDigits, Bytes.ofText_ofList, digitsOf, ← List.flatMap_pure_eq_map]
  refine List.flatMap_congr fun c mem => ?_
  have small : c.toNat ≤ 127 := by
    have := isDigit_of_mem mem
    omega
  rw [Bytes.encodeChar_of_le small]
  rfl

theorem digitsOf_ne_nil (n : Nat) : digitsOf n ≠ [] := by simp [digitsOf]

theorem isDigit_of_mem_digitsOf {n : Nat} {d : UInt8} (mem : d ∈ digitsOf n) : isDigit d = true := by
  obtain ⟨c, digit, rfl⟩ := List.mem_map.1 mem
  have range := isDigit_of_mem digit
  have same := toNat_toUInt8 (c := c) (by omega)
  simp only [isDigit, Bool.and_eq_true, decide_eq_true_eq, UInt8.le_iff_toNat_le, same]
  exact range

/-- Only zero starts with a zero. -/
theorem head_toDigits {n : Nat} (zero : (Nat.toDigits 10 n).head? = some '0') : n = 0 := by
  induction n using Nat.strongRecOn with
  | ind n ih =>
    by_cases small : n < 10
    · rw [Nat.toDigits_of_lt_base small] at zero
      simpa using zero
    · rw [Nat.toDigits_of_base_le (by decide) (by omega), List.head?_append_of_ne_nil _ Nat.toDigits_ne_nil] at zero
      have := ih (n / 10) (by omega) zero
      omega

theorem head_digitsOf {n : Nat} (zero : (digitsOf n).head? = some '0'.toUInt8) : (digitsOf n).length = 1 := by
  rw [digitsOf, List.head?_map, Option.map_eq_some_iff] at zero
  obtain ⟨c, head, same⟩ := zero
  have range := isDigit_of_mem (List.mem_of_mem_head? head)
  have byte := toNat_toUInt8 (c := c) (by omega)
  have code : c = '0' := by
    apply Char.toNat_inj.1
    rw [← byte, same]
    rfl
  rw [code] at head
  rw [head_toDigits head]
  rfl

theorem ofDigits_digitsOf (n : Nat) : ofDigits (digitsOf n) = n := by
  have step : ∀ (cs : List Char) (m : Nat), (∀ c ∈ cs, 48 ≤ c.toNat ∧ c.toNat ≤ 57) →
      (cs.map Char.toUInt8).foldl (fun n d => n * 10 + (d - '0'.toUInt8).toNat) m = Nat.ofDigitChars 10 cs m := by
    intro cs
    induction cs with
    | nil => exact fun m _ => by simp
    | cons c cs ih =>
      intro m digits
      have range := digits c List.mem_cons_self
      have byte := toNat_toUInt8 (c := c) (by omega)
      have digit : (c.toUInt8 - '0'.toUInt8).toNat = c.toNat - '0'.toNat := by
        rw [UInt8.toNat_sub_of_le, byte]
        · rfl
        · rw [UInt8.le_iff_toNat_le, byte]
          exact range.1
      rw [List.map_cons, List.foldl_cons, Nat.ofDigitChars_cons, digit, Nat.mul_comm,
        ih _ fun d mem => digits d (List.mem_cons_of_mem c mem)]
  rw [ofDigits, digitsOf, step _ 0 fun c mem => isDigit_of_mem mem, Nat.ofDigitChars_ten_toDigits]

def Literal.ofInt (n : Int) : Literal := ⟨n < 0, digitsOf n.natAbs, none, none⟩

theorem ofText_int (n : Int) :
    Bytes.ofText (toString n) = (if decide (n < 0) then ['-'.toUInt8] else []) ++ digitsOf n.natAbs := by
  cases n with
  | ofNat m =>
    have positive : ¬ (Int.ofNat m < 0) := by simp
    simp only [positive, decide_false]
    exact ofText_nat m
  | negSucc m =>
    have spelled : toString (Int.negSucc m) = "-" ++ toString (m + 1) := rfl
    rw [spelled, Bytes.ofText_append, ofText_nat]
    simp [Int.negSucc_lt_zero]
    rfl

theorem Literal.split?_int {n : Int} {rest : Bytes} (ends : Literal.Ends rest) :
    Literal.split? (Bytes.ofText (toString n) ++ rest) = some (Literal.ofInt n, rest) := by
  rw [ofText_int]
  exact Literal.split?_digits _ (fun _ mem => isDigit_of_mem_digitsOf mem) (digitsOf_ne_nil _) head_digitsOf ends

def InRange (n : Int) : Prop := -9223372036854775808 ≤ n ∧ n ≤ 18446744073709551615

theorem Literal.toInt_ofInt (n : Int) : (Literal.ofInt n).toInt = n := by
  simp only [Literal.toInt, Literal.ofInt, ofDigits_digitsOf, decide_eq_true_eq]
  split <;> omega

theorem Literal.value?_ofInt {n : Int} (range : InRange n) : (Literal.ofInt n).value? = some (.integer n) := by
  have integer : (Literal.ofInt n).isInteger = true := rfl
  have signed : ((Literal.ofInt n).negative && decide (n = 0)) = false := by
    simp only [Literal.ofInt, Bool.and_eq_false_iff, decide_eq_false_iff_not]
    omega
  rw [Literal.value?, toInt_ofInt, integer, signed, if_pos]
  simp [range.1, range.2]

theorem Literal.inRange_of_value?_ofInt {n m : Int} (value : (Literal.ofInt n).value? = some (.integer m)) : InRange n := by
  rw [Literal.value?, toInt_ofInt] at value
  split at value
  · next small =>
    simp only [Bool.and_eq_true, decide_eq_true_eq] at small
    exact ⟨small.1.1.2, small.1.2⟩
  · split at value <;> cases value

/-- An integer of 64 bits, with its sign. -/
def IsInt64 (n : Int) : Prop := -9223372036854775808 ≤ n ∧ n ≤ 9223372036854775807

end Accounts.Json
