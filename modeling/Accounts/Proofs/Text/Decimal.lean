import Accounts.Text.Decimal
import Mathlib.Algebra.Order.Ring.Nat
import Mathlib.Data.List.Basic
/-! Numbers with zeros before them. Main statement: the digits write the number, and are as many as they should be. -/
namespace Accounts.Decimal
variable (width n : Nat)

theorem toList_padded : (padded width n).toList =
    List.replicate (width - (Nat.toDigits 10 n).length) '0' ++ Nat.toDigits 10 n := by
  simp only [padded, Nat.toString_eq_ofList_toDigits, String.toList_append, String.toList_ofList, String.length_ofList]

theorem ofDigitChars_padded : Nat.ofDigitChars 10 (padded width n).toList 0 = n := by
  have zeros (k : Nat) (ds : List Char) :
      Nat.ofDigitChars 10 (List.replicate k '0' ++ ds) 0 = Nat.ofDigitChars 10 ds 0 := by
    induction k with
    | zero => rfl
    | succ k ih => rwa [List.replicate_succ, List.cons_append, Nat.ofDigitChars_cons]
  rw [toList_padded, zeros, Nat.ofDigitChars_ten_toDigits]

variable {width n}

theorem isDigit_of_mem_padded {c : Char} (mem : c ∈ (padded width n).toList) : c.isDigit = true := by
  rw [toList_padded, List.mem_append] at mem
  rcases mem with zero | digit
  · rw [List.eq_of_mem_replicate zero]
    rfl
  · exact Nat.isDigit_of_mem_toDigits (by decide) (by decide) digit

theorem exists_padded_cons (width n : Nat) : ∃ c cs, (padded width n).toList = c :: cs ∧ c.isDigit = true := by
  obtain ⟨c, cs, digits⟩ := List.exists_cons_of_ne_nil (l := (padded width n).toList) (by
    rw [toList_padded]
    exact List.append_ne_nil_of_right_ne_nil _ Nat.toDigits_ne_nil)
  exact ⟨c, cs, digits, isDigit_of_mem_padded (digits ▸ List.mem_cons_self)⟩

theorem length_padded (some_ : 0 < width) (small : n < 10 ^ width) : (padded width n).toList.length = width := by
  have short := (Nat.length_toDigits_le_iff (by decide) some_).2 small
  rw [toList_padded, List.length_append, List.length_replicate]
  omega

end Accounts.Decimal
