/-! Texts as their UTF-8 bytes, and the two ways back: exact, or with faulty bytes replaced. -/
namespace Accounts

abbrev Bytes := List UInt8

namespace Bytes

def ofText (s : String) : Bytes := s.toByteArray.data.toList

def text? (b : Bytes) : Option String := String.fromUTF8? ⟨b.toArray⟩

theorem text?_ofText (s : String) : text? (ofText s) = some s := by
  simp only [text?, ofText, Array.toArray_toList, String.fromUTF8?]
  exact dif_pos s.isValidUTF8

theorem ofText_inj {s t : String} (h : ofText s = ofText t) : s = t := by
  simpa [text?_ofText] using congrArg text? h

private def isTail (b : UInt8) : Bool := 0x80 ≤ b && b ≤ 0xBF

/-- How many bytes follow this lead byte, and in which range the first of them lies. -/
private def followers (lead : UInt8) : Option (Nat × UInt8 × UInt8) :=
  if 0xC2 ≤ lead && lead ≤ 0xDF then some (1, 0x80, 0xBF)
  else if lead = 0xE0 then some (2, 0xA0, 0xBF)
  else if lead = 0xED then some (2, 0x80, 0x9F)
  else if 0xE1 ≤ lead && lead ≤ 0xEF then some (2, 0x80, 0xBF)
  else if lead = 0xF0 then some (3, 0x90, 0xBF)
  else if 0xF1 ≤ lead && lead ≤ 0xF3 then some (3, 0x80, 0xBF)
  else if lead = 0xF4 then some (3, 0x80, 0x8F)
  else none

/-- The bytes after a lead byte that belong to its character, as far as they are sound. -/
private def soundTail (n : Nat) (low high : UInt8) (rest : Bytes) : Bytes :=
  match n, rest with
  | n + 1, b :: rest => if low ≤ b && b ≤ high then b :: (rest.take n).takeWhile isTail else []
  | _, _ => []

/-- One character's bytes, or one faulty run, as text, and how many bytes it took. -/
private def leading (lead : UInt8) (rest : Bytes) : String × Nat :=
  if lead < 0x80 then (String.singleton (Char.ofUInt8 lead), 1)
  else match followers lead with
    | none => ("\uFFFD", 1)
    | some (n, low, high) =>
      let tail := soundTail n low high rest
      ((text? (lead :: tail)).getD "\uFFFD", tail.length + 1)

private def replaced (b : Bytes) : String :=
  match b with
  | [] => ""
  | lead :: rest =>
    let (s, used) := leading lead rest
    s ++ replaced (rest.drop (used - 1))
  termination_by b.length
  decreasing_by simp only [List.length_cons, List.length_drop]; omega

/-- The encoded text; each longest faulty run that began like a character becomes U+FFFD. -/
def lossyText (b : Bytes) : String := (text? b).getD (replaced b)

theorem lossyText_ofText (s : String) : lossyText (ofText s) = s := by
  simp [lossyText, text?_ofText]

/-- The pieces between the occurrences of `sep`; there is always at least one. -/
def splitAt (sep : UInt8) : Bytes → List Bytes
  | [] => [[]]
  | b :: rest =>
    match splitAt sep rest with
    | [] => [[]]
    | piece :: pieces => if b = sep then [] :: piece :: pieces else (b :: piece) :: pieces

end Bytes
end Accounts
