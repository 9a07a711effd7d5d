import Accounts.Text.Parts
import Accounts.Text.Punycode
import Accounts.Text.Unseen
/-! Domain names written in ASCII. Each character is kept, left out, written as others or refused, and a label that
then has more than ASCII is written in Punycode. -/
namespace Accounts.DomainName

inductive Role
  | kept
  /-- Kept, but not as the first of its label. -/
  | joined
  | dropped
  | written (s : String)
  | refused
  deriving DecidableEq, Repr

/-- Variants of signs that are written as those of ASCII. -/
def signs : List (Nat × String) := [
  (0x1FEF, "\x60"), (0x203C, "!!"), (0x2047, "??"), (0x2048, "?!"), (0x2049, "!?"), (0x207A, "+"), (0x207C, "="),
  (0x208A, "+"), (0x208C, "="), (0x2A75, "=="), (0x2A76, "==="), (0x3002, "."), (0xFB29, "+"), (0xFE15, "!"),
  (0xFE16, "?"), (0xFE33, "_"), (0xFE34, "_"), (0xFE37, "\x7b"), (0xFE38, "\x7d"), (0xFE4D, "_"), (0xFE4E, "_"),
  (0xFE4F, "_"), (0xFE56, "?"), (0xFE57, "!"), (0xFE5B, "\x7b"), (0xFE5C, "\x7d"), (0xFE5F, "#"), (0xFE60, "&"),
  (0xFE61, "*"), (0xFE62, "+"), (0xFE63, "-"), (0xFE66, "="), (0xFE69, "$"), (0xFE6A, "%"), (0xFF61, ".")]

/-- Where characters begin and end that are left out. -/
def droppedBounds : List Nat := [
  0xAD, 0xAE, 0x34F, 0x350, 0x115F, 0x1161, 0x17B4, 0x17B6, 0x180B, 0x1810, 0x200B, 0x200C, 0x2060, 0x2065, 0x206A,
  0x2070, 0x3164, 0x3165, 0xFE00, 0xFE10, 0xFEFF, 0xFF00, 0xFFA0, 0xFFA1, 0x1BCA0, 0x1BCA4, 0x1D173, 0x1D17B,
  0xE0100, 0xE01F0]

/-- Where characters begin and end that no name may have, though they can be seen: accents that stand alone, signs in
parentheses, points in a row and the like. -/
def refusedBounds : List Nat := [
  0xA8, 0xA9, 0xAF, 0xB0, 0xB4, 0xB5, 0xB8, 0xB9, 0x2D8, 0x2DE, 0x37A, 0x37B, 0x37E, 0x37F, 0x384, 0x386,
  0x1FBD, 0x1FBE, 0x1FBF, 0x1FC2, 0x1FCD, 0x1FD0, 0x1FDD, 0x1FE0, 0x1FED, 0x1FEF, 0x1FFD, 0x1FFF, 0x2017,
  0x2018, 0x2024, 0x2027, 0x203E, 0x203F, 0x207D, 0x207F, 0x208D, 0x208F, 0x2474, 0x24B6, 0x2A74, 0x2A75,
  0x2FF0, 0x3000, 0x309B, 0x309D, 0x31EF, 0x31F0, 0x3200, 0x321F, 0x3220, 0x3244, 0x33C2, 0x33C3, 0x33C7,
  0x33C8, 0x33D8, 0x33D9, 0xFC5E, 0xFC64, 0xFDFA, 0xFDFC, 0xFE10, 0xFE11, 0xFE12, 0xFE15, 0xFE19, 0xFE1A,
  0xFE30, 0xFE31, 0xFE35, 0xFE37, 0xFE47, 0xFE4D, 0xFE50, 0xFE51, 0xFE52, 0xFE53, 0xFE54, 0xFE56, 0xFE59,
  0xFE5B, 0xFE64, 0xFE66, 0xFE68, 0xFE69, 0xFE6B, 0xFE6C, 0xFE70, 0xFE71, 0xFE72, 0xFE73, 0xFE74, 0xFE75,
  0xFE76, 0xFE77, 0xFE78, 0xFE79, 0xFE7A, 0xFE7B, 0xFE7C, 0xFE7D, 0xFE7E, 0xFE7F, 0xFFE3, 0xFFE4, 0xFFFC,
  0xFFFE, 0x1F100, 0x1F10B, 0x1F110, 0x1F12A]

def role (c : Char) : Role :=
  let n := c.toNat
  if n < 128 then .written (String.singleton c.toLower)
  else if 0xFF01 ≤ n && n ≤ 0xFF5E then .written (String.singleton (Char.ofNat (n - 0xFEE0)).toLower)
  else match signs.lookup n with
    | some s => .written s
    | none =>
      if Ranges.contains droppedBounds n then .dropped
      else if isUnseen c || Ranges.contains refusedBounds n then .refused
      else if isExtender c then .joined
      else .kept

/-- The characters that stand for one. -/
def mapped? (c : Char) : Option (List Char) :=
  match role c with
  | .kept => some [c]
  | .joined => some [c]
  | .dropped => some []
  | .written s => some s.toList
  | .refused => none

def mark : List Char := "xn--".toList

/-- A label in ASCII. What looks like Punycode already may have no other characters. -/
def label? (label : List Char) : Option (List Char) :=
  if label.all fun c => c.toNat < 128 then some label
  else if label.take mark.length = mark || label.head?.any (role · = .joined) then none
  else some (mark ++ Punycode.encode label)

/-- A name in ASCII, if there is a way to write it. -/
def ascii? (name : List Char) : Option (List Char) := do
  let mapped ← name.mapM mapped?
  let labels ← (Parts.splitAt '.' mapped.flatten).mapM label?
  return Parts.join '.' labels

end Accounts.DomainName
