import Accounts.Text.Bytes
/-! Hexadecimal digits and numbers. -/
namespace Accounts.Hex

def value? (b : UInt8) : Option UInt8 :=
  if '0'.toUInt8 ≤ b && b ≤ '9'.toUInt8 then some (b - '0'.toUInt8)
  else if 'a'.toUInt8 ≤ b && b ≤ 'f'.toUInt8 then some (b - 'a'.toUInt8 + 10)
  else if 'A'.toUInt8 ≤ b && b ≤ 'F'.toUInt8 then some (b - 'A'.toUInt8 + 10)
  else none

def lower (n : UInt8) : UInt8 := if n < 10 then '0'.toUInt8 + n else 'a'.toUInt8 + (n - 10)

def upper (n : UInt8) : UInt8 := if n < 10 then '0'.toUInt8 + n else 'A'.toUInt8 + (n - 10)

theorem value?_upper {n : UInt8} (h : n < 16) : value? (upper n) = some n := by
  have all : ∀ i : Fin 16, value? (upper (UInt8.ofNat i)) = some (UInt8.ofNat i) := by decide
  simpa using all ⟨n.toNat, h⟩

/-- The bytes that a text of digit pairs spells. -/
def bytes? : Bytes → Option Bytes
  | [] => some []
  | [_] => none
  | a :: b :: rest => do
    let high ← value? a
    let low ← value? b
    return (high * 16 + low) :: (← bytes? rest)

/-- Two lower-case digits for each byte. -/
def ofBytes (bs : Bytes) : Bytes := bs.flatMap fun b => [lower (b / 16), lower (b % 16)]

end Accounts.Hex
