import Accounts.Proofs.Text.Utf8
import Accounts.Text.Base64
import Mathlib.Data.Fintype.Basic
import Mathlib.Tactic.FinCases
/-! Bytes are read back from their base64, in each alphabet. -/
namespace Accounts.Base64

/-- A digit stands for its value alone. -/
def Alphabet.Sound (a : Alphabet) : Prop := ∀ n < 64, a.value? (a.digit n) = some n

theorem sound_of_all {a : Alphabet}
    (all : ∀ i : Fin 64, a.value? (a.digit (UInt8.ofNat i)) = some (UInt8.ofNat i)) : a.Sound := by
  intro n small
  simpa using all ⟨n.toNat, small⟩

theorem sound_urlSafe : Alphabet.urlSafe.Sound := sound_of_all (by decide)

theorem sound_standard : Alphabet.standard.Sound := sound_of_all (by decide)

/-! ### Six bits at a time -/

theorem eq_of_bits {x y : UInt8} (bits : ∀ i : Fin 8, x.toBitVec[i] = y.toBitVec[i]) : x = y := by
  apply UInt8.eq_of_toBitVec_eq
  ext i small
  exact bits ⟨i, small⟩

theorem lt_of_and_eq {n : UInt8} (low : n &&& 63 = n) : n < 64 := by
  have le : n.toNat &&& 63 ≤ 63 := Nat.and_le_right
  rw [← low, UInt8.lt_iff_toNat_lt, UInt8.toNat_and]
  exact Nat.lt_succ_of_le le

section
variable (x y z : UInt8)

theorem high_lt : x >>> 2 < 64 := lt_of_and_eq (eq_of_bits fun i => by fin_cases i <;> simp)

theorem middle_lt : (x &&& 3) <<< 4 ||| y >>> 4 < 64 := lt_of_and_eq (eq_of_bits fun i => by fin_cases i <;> simp)

theorem next_lt : (y &&& 15) <<< 2 ||| z >>> 6 < 64 := lt_of_and_eq (eq_of_bits fun i => by fin_cases i <;> simp)

theorem low_lt : z &&& 63 < 64 := lt_of_and_eq (eq_of_bits fun i => by fin_cases i <;> simp)

theorem lastOne_lt : (x &&& 3) <<< 4 < 64 := by simpa using middle_lt x 0

theorem lastTwo_lt : (y &&& 15) <<< 2 < 64 := by simpa using next_lt y 0

theorem first_joined : x >>> 2 <<< 2 ||| ((x &&& 3) <<< 4 ||| y >>> 4) >>> 4 = x :=
  eq_of_bits fun i => by fin_cases i <;> simp

theorem second_joined : ((x &&& 3) <<< 4 ||| y >>> 4) <<< 4 ||| ((y &&& 15) <<< 2 ||| z >>> 6) >>> 2 = y :=
  eq_of_bits fun i => by fin_cases i <;> simp

theorem third_joined : ((y &&& 15) <<< 2 ||| z >>> 6) <<< 6 ||| z &&& 63 = z :=
  eq_of_bits fun i => by fin_cases i <;> simp

theorem first_alone : x >>> 2 <<< 2 ||| (x &&& 3) <<< 4 >>> 4 = x := by simpa using first_joined x 0

theorem second_alone : ((x &&& 3) <<< 4 ||| y >>> 4) <<< 4 ||| (y &&& 15) <<< 2 >>> 2 = y := by
  simpa using second_joined x y 0

theorem lastOne_unused : (x &&& 3) <<< 4 &&& 15 = 0 := eq_of_bits fun i => by fin_cases i <;> simp

theorem lastTwo_unused : (y &&& 15) <<< 2 &&& 3 = 0 := eq_of_bits fun i => by fin_cases i <;> simp

end

variable {a : Alphabet}

theorem decode?_encode (sound : a.Sound) (bs : Bytes) : decode? a (encode a bs) = some bs := by
  fun_induction encode a bs with
  | case1 => rfl
  | case2 x =>
    simp only [decode?, sound _ (high_lt x), sound _ (lastOne_lt x), lastOne_unused, first_alone, Option.bind_eq_bind,
      Option.bind_some, if_true]
  | case3 x y =>
    simp only [decode?, sound _ (high_lt x), sound _ (middle_lt x y), sound _ (lastTwo_lt y), lastTwo_unused,
      first_joined, second_alone, Option.bind_eq_bind, Option.bind_some, if_true]
  | case4 x y z rest ih =>
    rw [decode?, ih]
    · simp only [sound _ (high_lt x), sound _ (middle_lt x y), sound _ (next_lt y z), sound _ (low_lt z), first_joined,
        second_joined, third_joined, Option.bind_eq_bind, Option.bind_some, Option.pure_def]

theorem eq_digit_of_mem_encode {bs : Bytes} {b : UInt8} (mem : b ∈ encode a bs) : ∃ n < 64, b = a.digit n := by
  fun_induction encode a bs with
  | case1 => cases mem
  | case2 x =>
    simp only [List.mem_cons, List.not_mem_nil, or_false] at mem
    rcases mem with rfl | rfl
    · exact ⟨_, high_lt x, rfl⟩
    · exact ⟨_, lastOne_lt x, rfl⟩
  | case3 x y =>
    simp only [List.mem_cons, List.not_mem_nil, or_false] at mem
    rcases mem with rfl | rfl | rfl
    · exact ⟨_, high_lt x, rfl⟩
    · exact ⟨_, middle_lt x y, rfl⟩
    · exact ⟨_, lastTwo_lt y, rfl⟩
  | case4 x y z rest ih =>
    simp only [List.mem_cons] at mem
    rcases mem with rfl | rfl | rfl | rfl | mem
    · exact ⟨_, high_lt x, rfl⟩
    · exact ⟨_, middle_lt x y, rfl⟩
    · exact ⟨_, next_lt y z, rfl⟩
    · exact ⟨_, low_lt z, rfl⟩
    · exact ih mem

/-- What holds of all digits holds of all that is written. -/
theorem forall_mem_encode {P : UInt8 → Prop} (digits : ∀ i : Fin 64, P (a.digit (UInt8.ofNat i))) {bs : Bytes} {b : UInt8}
    (mem : b ∈ encode a bs) : P b := by
  obtain ⟨n, small, rfl⟩ := eq_digit_of_mem_encode mem
  simpa using digits ⟨n.toNat, small⟩

end Accounts.Base64
