import Accounts.Text.Percent
/-! What a part of a path spells. Each byte stands for itself or is escaped, as it has to be if it has a meaning in a
path. -/
namespace Accounts.Percent

/-- What starts an escape, or ends a part of a path or all of it. -/
def special : Bytes := ['%'.toUInt8, '/'.toUInt8, '?'.toUInt8, '#'.toUInt8]

inductive Spells : Bytes → Bytes → Prop
  | nil : Spells [] []
  | plain {b : UInt8} (free : b ∉ special) {escaped bytes : Bytes} (rest : Spells escaped bytes) :
      Spells (b :: escaped) (b :: bytes)
  | escape {a b high low : UInt8} (first : Hex.value? a = some high) (second : Hex.value? b = some low)
      {escaped bytes : Bytes} (rest : Spells escaped bytes) :
      Spells ('%'.toUInt8 :: a :: b :: escaped) ((high * 16 + low) :: bytes)

theorem decode_cons_of_ne {b : UInt8} (plain : b ≠ '%'.toUInt8) (rest : Bytes) : decode (b :: rest) = b :: decode rest := by
  match rest with
  | [] => rfl
  | [_] => rfl
  | _ :: _ :: _ => rw [decode, if_neg plain]

variable {escaped bytes : Bytes}

theorem Spells.decode (h : Spells escaped bytes) : Percent.decode escaped = bytes := by
  induction h with
  | nil => rfl
  | plain free rest ih =>
    rw [decode_cons_of_ne (List.ne_of_not_mem_cons free), ih]
  | escape first second rest ih =>
    rw [Percent.decode, if_pos rfl, first, second]
    exact congrArg _ ih

theorem Spells.ne_nil (h : Spells escaped bytes) (some_ : bytes ≠ []) : escaped ≠ [] := by
  cases h with
  | nil => exact absurd rfl some_
  | plain => exact List.cons_ne_nil _ _
  | escape => exact List.cons_ne_nil _ _

/-- No digit has a meaning in a path. -/
theorem notMem_special_of_value? {a n : UInt8} (digit : Hex.value? a = some n) : a ∉ special := by
  have none : ∀ b ∈ special, Hex.value? b = none := by decide +kernel
  intro mem
  rw [none a mem] at digit
  cases digit

theorem Spells.notMem (h : Spells escaped bytes) {b : UInt8} (ends : b ∈ special) (other : b ≠ '%'.toUInt8) : b ∉ escaped := by
  induction h with
  | nil => exact List.not_mem_nil
  | plain free rest ih =>
    intro mem
    rcases List.mem_cons.1 mem with rfl | later
    · exact free ends
    · exact ih later
  | escape first second rest ih =>
    intro mem
    simp only [List.mem_cons] at mem
    rcases mem with rfl | rfl | rfl | later
    · exact other rfl
    · exact notMem_special_of_value? first ends
    · exact notMem_special_of_value? second ends
    · exact ih later

/-- All bytes but those of plain words escaped. -/
def segment (bs : Bytes) : Bytes :=
  bs.flatMap fun b => if isPlain b then [b] else ['%'.toUInt8, Hex.upper (b / 16), Hex.upper (b % 16)]

theorem notMem_special_of_isPlain {b : UInt8} (plain : isPlain b = true) : b ∉ special := by
  have none : ∀ b ∈ special, isPlain b = false := by decide +kernel
  intro mem
  rw [none b mem] at plain
  cases plain

theorem high_lt (b : UInt8) : b / 16 < 16 := by
  rw [UInt8.lt_iff_toNat_lt, UInt8.toNat_div]
  have := b.toNat_lt
  simp
  omega

theorem low_lt (b : UInt8) : b % 16 < 16 := by
  rw [UInt8.lt_iff_toNat_lt, UInt8.toNat_mod]
  simp
  omega

theorem high_low (b : UInt8) : b / 16 * 16 + b % 16 = b := by
  apply UInt8.toNat_inj.1
  have := b.toNat_lt
  simp
  omega

theorem spells_segment (bs : Bytes) : Spells (segment bs) bs := by
  induction bs with
  | nil => exact .nil
  | cons b rest ih =>
    rw [segment, List.flatMap_cons]
    split
    · next plain => exact .plain (notMem_special_of_isPlain plain) ih
    · have escaped := Spells.escape (Hex.value?_upper (high_lt b)) (Hex.value?_upper (low_lt b)) ih
      rwa [high_low] at escaped

end Accounts.Percent
