import Accounts.Json.Quoted
import Accounts.Proofs.Text.Utf8
import Mathlib.Data.List.Basic
/-! A text stays a text when it is put between quotes, and grows sixfold at most. -/
namespace Accounts.Json.Quoted
open Bytes

theorem escapeByte_ascii {b : UInt8} (ascii : b.toNat ≤ 127) : ∀ x ∈ escapeByte b, x.toNat ≤ 127 := by
  have all : ∀ i : Fin 128, (escapeByte (UInt8.ofNat i)).all (fun x => x.toNat ≤ 127) = true := by
    decide +kernel
  have this := all ⟨b.toNat, by omega⟩
  simpa using this

theorem escapeByte_wide {b : UInt8} (wide : 127 < b.toNat) : escapeByte b = [b] := by
  have ge : ¬ b < 0x20 := by
    rw [UInt8.lt_iff_toNat_lt]
    simp
    omega
  have quote : b ≠ '"'.toUInt8 := by
    rintro rfl
    exact absurd wide (by decide)
  have slash : b ≠ '\\'.toUInt8 := by
    rintro rfl
    exact absurd wide (by decide)
  simp [escapeByte, ge, quote, slash]

theorem isText_escapeChar (c : Char) : IsText (escape (String.utf8EncodeChar c)) := by
  by_cases ascii : c.toNat ≤ 127
  · have same : (UInt8.ofNat c.toNat).toNat = c.toNat := by
      simp
      omega
    rw [encodeChar_of_le ascii, escape, List.flatMap_singleton]
    exact isText_of_ascii (escapeByte_ascii (by omega))
  · have plain : escape (String.utf8EncodeChar c) = String.utf8EncodeChar c := by
      rw [escape, List.flatMap_congr fun b mem => escapeByte_wide (toNat_of_mem_encodeChar (by omega) mem)]
      simp
    rw [plain]
    exact isText_encodeChar c

theorem isText_escape (s : String) : IsText (escape (ofText s)) := by
  rw [ofText_eq_flatMap, escape, List.flatMap_assoc]
  exact isText_flatMap fun c _ => isText_escapeChar c

theorem isText_encode (s : String) : IsText (encode s) := by
  have quote : IsText ['"'.toUInt8] := isText_ofText "\""
  exact (quote.append (isText_escape s)).append quote

theorem length_escapeByte_le (b : UInt8) : (escapeByte b).length ≤ 6 := by
  have all : ∀ i : Fin 256, (escapeByte (UInt8.ofNat i)).length ≤ 6 := by decide +kernel
  have this := all ⟨b.toNat, b.toNat_lt⟩
  simpa using this

theorem length_escape_le (bs : Bytes) : (escape bs).length ≤ 6 * bs.length := by
  induction bs with
  | nil => exact Nat.le_refl _
  | cons b bs ih =>
    have first := length_escapeByte_le b
    have whole : escape (b :: bs) = escapeByte b ++ escape bs := List.flatMap_cons
    rw [whole, List.length_append, List.length_cons]
    omega

theorem length_encode (s : String) : (encode s).length = (escape (ofText s)).length + 2 := by
  rw [encode, List.length_append, List.length_cons]
  rfl

end Accounts.Json.Quoted
