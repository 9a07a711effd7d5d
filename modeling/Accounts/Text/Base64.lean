import Accounts.Text.Bytes
/-! Base64 without padding, in either alphabet. Reading accepts the written form only: unused low bits are
zero, and no digit is left alone. -/
namespace Accounts.Base64

/-- What stands for 62 and 63. -/
structure Alphabet where
  high : UInt8
  top : UInt8

def Alphabet.standard : Alphabet := ⟨'+'.toUInt8, '/'.toUInt8⟩

def Alphabet.urlSafe : Alphabet := ⟨'-'.toUInt8, '_'.toUInt8⟩

def Alphabet.digit (a : Alphabet) (n : UInt8) : UInt8 :=
  if n < 26 then 'A'.toUInt8 + n
  else if n < 52 then 'a'.toUInt8 + (n - 26)
  else if n < 62 then '0'.toUInt8 + (n - 52)
  else if n = 62 then a.high else a.top

def Alphabet.value? (a : Alphabet) (b : UInt8) : Option UInt8 :=
  if 'A'.toUInt8 ≤ b && b ≤ 'Z'.toUInt8 then some (b - 'A'.toUInt8)
  else if 'a'.toUInt8 ≤ b && b ≤ 'z'.toUInt8 then some (b - 'a'.toUInt8 + 26)
  else if '0'.toUInt8 ≤ b && b ≤ '9'.toUInt8 then some (b - '0'.toUInt8 + 52)
  else if b = a.high then some 62
  else if b = a.top then some 63
  else none

def encode (a : Alphabet) : Bytes → Bytes
  | [] => []
  | [x] => [a.digit (x >>> 2), a.digit ((x &&& 3) <<< 4)]
  | [x, y] => [a.digit (x >>> 2), a.digit ((x &&& 3) <<< 4 ||| y >>> 4), a.digit ((y &&& 15) <<< 2)]
  | x :: y :: z :: rest =>
    a.digit (x >>> 2) :: a.digit ((x &&& 3) <<< 4 ||| y >>> 4) ::
      a.digit ((y &&& 15) <<< 2 ||| z >>> 6) :: a.digit (z &&& 63) :: encode a rest

def decode? (a : Alphabet) : Bytes → Option Bytes
  | [] => some []
  | [_] => none
  | [p, q] => do
    let p ← a.value? p
    let q ← a.value? q
    if q &&& 15 = 0 then some [p <<< 2 ||| q >>> 4] else none
  | [p, q, r] => do
    let p ← a.value? p
    let q ← a.value? q
    let r ← a.value? r
    if r &&& 3 = 0 then some [p <<< 2 ||| q >>> 4, q <<< 4 ||| r >>> 2] else none
  | p :: q :: r :: s :: rest => do
    let p ← a.value? p
    let q ← a.value? q
    let r ← a.value? r
    let s ← a.value? s
    let rest ← decode? a rest
    return (p <<< 2 ||| q >>> 4) :: (q <<< 4 ||| r >>> 2) :: (r <<< 6 ||| s) :: rest

end Accounts.Base64
