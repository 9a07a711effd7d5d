import Accounts.Text.Hex
/-! Percent escapes, as paths, queries and form fields write them. -/
namespace Accounts.Percent

/-- Written as itself in a form field. -/
def isPlain (b : UInt8) : Bool :=
  ('0'.toUInt8 ≤ b && b ≤ '9'.toUInt8) || ('A'.toUInt8 ≤ b && b ≤ 'Z'.toUInt8) ||
  ('a'.toUInt8 ≤ b && b ≤ 'z'.toUInt8) ||
  b = '*'.toUInt8 || b = '-'.toUInt8 || b = '.'.toUInt8 || b = '_'.toUInt8

def encodeByte (b : UInt8) : Bytes :=
  if isPlain b then [b]
  else if b = ' '.toUInt8 then ['+'.toUInt8]
  else ['%'.toUInt8, Hex.upper (b / 16), Hex.upper (b % 16)]

/-- The value of a form field: a space becomes a plus sign, other special bytes are escaped. -/
def encode (bs : Bytes) : Bytes := bs.flatMap encodeByte

/-- A percent sign without two digits after it stands for itself. -/
def decode : Bytes → Bytes
  | [] => []
  | [a] => [a]
  | [a, b] => [a, b]
  | a :: b :: c :: rest =>
    if a = '%'.toUInt8 then
      match Hex.value? b, Hex.value? c with
      | some high, some low => (high * 16 + low) :: decode rest
      | _, _ => a :: decode (b :: c :: rest)
    else a :: decode (b :: c :: rest)

def decodeForm (bs : Bytes) : Bytes :=
  decode (bs.map fun b => if b = '+'.toUInt8 then ' '.toUInt8 else b)

/-- The named values of a query or form: parts between ampersands, each split at its first
equals sign; empty parts are skipped. -/
def pairs (query : Bytes) : List (String × String) :=
  (Bytes.splitAt '&'.toUInt8 query).filterMap fun part =>
    if part.isEmpty then none
    else some (field (part.takeWhile (· ≠ '='.toUInt8)),
      field ((part.dropWhile (· ≠ '='.toUInt8)).drop 1))
where
  field (bs : Bytes) : String := Bytes.lossyText (decodeForm bs)

end Accounts.Percent
