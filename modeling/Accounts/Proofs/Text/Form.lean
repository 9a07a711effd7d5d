import Accounts.Proofs.Text.Percent
import Accounts.Proofs.Text.Utf8
/-! Values of form fields are read back from their escaped form, in which no byte has a meaning in a query. -/
namespace Accounts.Percent

/-- What separates fields and ends names in a query, and what starts or ends one. -/
def separators : Bytes := ['&'.toUInt8, '='.toUInt8, '?'.toUInt8, '#'.toUInt8]

theorem mem_encodeByte {b x : UInt8} (mem : x ∈ encodeByte b) : x.toNat ≤ 127 ∧ x ∉ separators := by
  have all : ∀ i : Fin 256, (encodeByte (UInt8.ofNat i)).all (fun x => x.toNat ≤ 127 && !separators.contains x) = true := by
    decide +kernel
  have this := all ⟨b.toNat, b.toNat_lt⟩
  simp only [UInt8.ofNat_toNat, List.all_eq_true] at this
  simpa using this x mem

theorem mem_encode {bs : Bytes} {x : UInt8} (mem : x ∈ encode bs) : x.toNat ≤ 127 ∧ x ∉ separators := by
  obtain ⟨b, -, mem⟩ := List.mem_flatMap.1 mem
  exact mem_encodeByte mem

theorem isText_encode (bs : Bytes) : Bytes.IsText (encode bs) := Bytes.isText_of_ascii fun _ mem => (mem_encode mem).1

/-- An escaped form is no shorter than what it stands for. -/
theorem length_le_encode (bs : Bytes) : bs.length ≤ (encode bs).length := by
  have nonempty (b : UInt8) : 1 ≤ (encodeByte b).length := by
    unfold encodeByte
    split
    · exact Nat.le_refl 1
    · split
      · exact Nat.le_refl 1
      · exact Nat.le_add_left 1 2
  induction bs with
  | nil => exact Nat.le_refl _
  | cons b bs ih =>
    have first := nonempty b
    have whole : encode (b :: bs) = encodeByte b ++ encode bs := List.flatMap_cons
    rw [whole, List.length_append, List.length_cons]
    omega

theorem decodeForm_cons_of_ne {b : UInt8} (percent : b ≠ '%'.toUInt8) (plus : b ≠ '+'.toUInt8) (rest : Bytes) :
    decodeForm (b :: rest) = b :: decodeForm rest := by
  rw [decodeForm, List.map_cons, if_neg plus, decode_cons_of_ne percent]
  rfl

theorem decodeForm_plus (rest : Bytes) : decodeForm ('+'.toUInt8 :: rest) = ' '.toUInt8 :: decodeForm rest :=
  decode_cons_of_ne (by decide) _

theorem decodeForm_escape {a b high low : UInt8} (first : Hex.value? a = some high) (second : Hex.value? b = some low)
    (rest : Bytes) : decodeForm ('%'.toUInt8 :: a :: b :: rest) = (high * 16 + low) :: decodeForm rest := by
  have digit {x n : UInt8} (read : Hex.value? x = some n) : x ≠ '+'.toUInt8 := by
    have none : Hex.value? '+'.toUInt8 = none := by decide
    rintro rfl
    rw [none] at read
    cases read
  rw [decodeForm, List.map_cons, List.map_cons, List.map_cons, if_neg (by decide), if_neg (digit first),
    if_neg (digit second), decode, if_pos rfl, first, second]
  rfl

theorem decodeForm_encodeByte (b : UInt8) (rest : Bytes) : decodeForm (encodeByte b ++ rest) = b :: decodeForm rest := by
  unfold encodeByte
  split
  · next plain =>
    have other {c : UInt8} (special : isPlain c = false) : b ≠ c := by
      rintro rfl
      rw [plain] at special
      cases special
    exact decodeForm_cons_of_ne (other (by decide)) (other (by decide)) rest
  · split
    · next space =>
      rw [space]
      exact decodeForm_plus rest
    · have escaped := decodeForm_escape (Hex.value?_upper (high_lt b)) (Hex.value?_upper (low_lt b)) rest
      rwa [high_low] at escaped

theorem decodeForm_encode (bs : Bytes) : decodeForm (encode bs) = bs := by
  induction bs with
  | nil => rfl
  | cons b bs ih =>
    rw [encode, List.flatMap_cons, decodeForm_encodeByte]
    exact congrArg _ ih

/-- A query of one field holds its name and its value. -/
theorem pairs_encode (name value : Bytes) :
    pairs (encode name ++ '='.toUInt8 :: encode value) = [(Bytes.lossyText name, Bytes.lossyText value)] := by
  have free {bs : Bytes} {x : UInt8} (separates : x ∈ separators) : x ∉ encode bs := fun mem =>
    (mem_encode mem).2 separates
  have whole : '&'.toUInt8 ∉ encode name ++ '='.toUInt8 :: encode value := by
    rw [List.mem_append, List.mem_cons]
    exact not_or.2 ⟨free (by decide), not_or.2 ⟨by decide, free (by decide)⟩⟩
  have named : ∀ b ∈ encode name, decide (b ≠ '='.toUInt8) = true := by
    intro b mem
    refine decide_eq_true ?_
    rintro rfl
    exact free (by decide) mem
  rw [pairs, Bytes.splitAt_of_notMem whole]
  simp only [List.filterMap_cons, List.filterMap_nil]
  rw [List.takeWhile_append_of_pos named, List.dropWhile_append_of_pos named]
  simp [pairs.field, decodeForm_encode]

end Accounts.Percent
