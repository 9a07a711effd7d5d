import Accounts.Text.Bytes
/-! Bytes that encode a text, and bytes between separators. -/
namespace Accounts.Bytes

def IsText (b : Bytes) : Prop := ∃ s, ofText s = b

theorem isText_ofText (s : String) : IsText (ofText s) := ⟨s, rfl⟩

theorem ofText_append (s t : String) : ofText (s ++ t) = ofText s ++ ofText t := by simp [ofText]

theorem ofText_ofList (cs : List Char) : ofText (String.ofList cs) = cs.flatMap String.utf8EncodeChar := by
  simp [ofText, List.utf8Encode]

theorem ofText_eq_flatMap (s : String) : ofText s = s.toList.flatMap String.utf8EncodeChar := by
  rw [← ofText_ofList, String.ofList_toList]

theorem IsText.append {a b : Bytes} (ha : IsText a) (hb : IsText b) : IsText (a ++ b) := by
  obtain ⟨s, rfl⟩ := ha
  obtain ⟨t, rfl⟩ := hb
  exact ⟨s ++ t, ofText_append s t⟩

theorem isText_flatMap {α : Type} {l : List α} {f : α → Bytes} (h : ∀ a ∈ l, IsText (f a)) : IsText (l.flatMap f) := by
  induction l with
  | nil => exact isText_ofText ""
  | cons a l ih =>
    rw [List.flatMap_cons]
    exact (h a List.mem_cons_self).append (ih fun b mem => h b (List.mem_cons_of_mem a mem))

theorem isText_encodeChar (c : Char) : IsText (String.utf8EncodeChar c) :=
  ⟨String.ofList [c], by rw [ofText_ofList, List.flatMap_singleton]⟩

theorem encodeChar_of_le {c : Char} (ascii : c.toNat ≤ 127) : String.utf8EncodeChar c = [UInt8.ofNat c.toNat] := by
  unfold String.utf8EncodeChar
  exact if_pos ascii

theorem IsText.ofText_text? {b : Bytes} (h : IsText b) : ofText ((text? b).getD "") = b := by
  obtain ⟨s, rfl⟩ := h
  rw [text?_ofText]
  rfl

theorem ofText_ofList_ascii {b : Bytes} (ascii : ∀ x ∈ b, x.toNat ≤ 127) :
    ofText (String.ofList (b.map Char.ofUInt8)) = b := by
  rw [ofText_ofList]
  induction b with
  | nil => rfl
  | cons x b ih =>
    have same : (Char.ofUInt8 x).toNat = x.toNat := rfl
    rw [List.map_cons, List.flatMap_cons, ih fun y mem => ascii y (List.mem_cons_of_mem x mem),
      encodeChar_of_le (same ▸ ascii x List.mem_cons_self), same, UInt8.ofNat_toNat]
    rfl

theorem isText_of_ascii {b : Bytes} (ascii : ∀ x ∈ b, x.toNat ≤ 127) : IsText b := ⟨_, ofText_ofList_ascii ascii⟩

/-- All bytes of a character beyond ASCII are beyond ASCII. -/
theorem toNat_of_mem_encodeChar {c : Char} (wide : 127 < c.toNat) {x : UInt8} (mem : x ∈ String.utf8EncodeChar c) :
    127 < x.toNat := by
  unfold String.utf8EncodeChar at mem
  change x ∈ (if c.toNat ≤ 127 then _ else _) at mem
  rw [if_neg (by omega)] at mem
  split at mem
  · simp only [List.mem_cons, List.not_mem_nil, or_false] at mem
    rcases mem with rfl | rfl <;> simp <;> omega
  · split at mem
    · simp only [List.mem_cons, List.not_mem_nil, or_false] at mem
      rcases mem with rfl | rfl | rfl <;> simp <;> omega
    · simp only [List.mem_cons, List.not_mem_nil, or_false] at mem
      rcases mem with rfl | rfl | rfl | rfl <;> simp <;> omega

/-! ### Pieces -/

theorem splitAt_ne_nil (sep : UInt8) (b : Bytes) : splitAt sep b ≠ [] := by
  cases b with
  | nil => simp [splitAt]
  | cons x rest =>
    unfold splitAt
    split
    · simp
    · split <;> simp

theorem splitAt_append {sep : UInt8} {piece : Bytes} (free : sep ∉ piece) (rest : Bytes) :
    splitAt sep (piece ++ sep :: rest) = piece :: splitAt sep rest := by
  obtain ⟨next, pieces, split⟩ := List.exists_cons_of_ne_nil (splitAt_ne_nil sep rest)
  induction piece with
  | nil => simp [splitAt, split]
  | cons x piece ih =>
    have ne : x ≠ sep := fun same => free (same ▸ List.mem_cons_self)
    have later := ih fun mem => free (List.mem_cons_of_mem x mem)
    rw [List.cons_append, splitAt, later]
    simp [ne]

theorem splitAt_of_notMem {sep : UInt8} {piece : Bytes} (free : sep ∉ piece) : splitAt sep piece = [piece] := by
  induction piece with
  | nil => rfl
  | cons x piece ih =>
    have ne : x ≠ sep := fun same => free (same ▸ List.mem_cons_self)
    rw [splitAt, ih fun mem => free (List.mem_cons_of_mem x mem)]
    simp [ne]

end Accounts.Bytes
