import Accounts.Password.Hash
import Accounts.Proofs.Text.Base64
/-! A password is known again by the hash that was made of it. Main statement: `verify` accepts what `hash` made, for
every salt that has the size of a salt. -/
namespace Accounts

/-! ### Sizes -/

theorem Hash.length_little (count n : Nat) : (Hash.little count n).length = count := by simp [Hash.little]

namespace Hash.Blake2b

theorem size_compress (h : Array UInt64) (block : Bytes) (count : Nat) (last : Bool) :
    (compress h block count last).size = 8 := by simp [compress]

theorem size_absorb (h : Array UInt64) (count : Nat) (blocks : List Bytes) : (absorb h count blocks).size = 8 := by
  fun_induction absorb h count blocks with
  | case1 => exact size_compress _ _ _ _
  | case2 => exact size_compress _ _ _ _
  | case3 h count block rest _ ih => exact ih

theorem length_digest {size : Nat} (small : size ≤ 64) (message : Bytes) : (digest size message).length = size := by
  have words (ws : List UInt64) : (ws.flatMap fun w => little 8 w.toNat).length = 8 * ws.length := by
    induction ws with
    | nil => rfl
    | cons w ws ih =>
      rw [List.flatMap_cons, List.length_append, length_little, ih, List.length_cons]
      omega
  rw [digest, List.length_take, words, Array.length_toList, size_absorb]
  omega

end Hash.Blake2b

theorem Hash.Argon2.length_digest (p : Params) {size : Nat} (small : size ≤ 64) (password salt : Bytes) :
    (digest p size password salt).length = size := by
  rw [digest, stretch, if_pos small]
  exact Blake2b.length_digest small _

theorem Base64.length_encode (a : Alphabet) (bs : Bytes) : (encode a bs).length = (4 * bs.length + 2) / 3 := by
  fun_induction encode a bs with
  | case1 => rfl
  | case2 => simp
  | case3 => simp
  | case4 x y z rest ih =>
    simp only [List.length_cons, ih]
    omega

namespace Password

/-! ### Fields -/

namespace Phc
variable {sep : Char} {piece : List Char}

theorem parts_ne_nil (sep : Char) (cs : List Char) : parts sep cs ≠ [] := by
  cases cs with
  | nil => simp [parts]
  | cons c rest =>
    unfold parts
    split
    · simp
    · split <;> simp

theorem parts_append (free : sep ∉ piece) (rest : List Char) :
    parts sep (piece ++ sep :: rest) = piece :: parts sep rest := by
  obtain ⟨next, more, split⟩ := List.exists_cons_of_ne_nil (parts_ne_nil sep rest)
  induction piece with
  | nil => simp [parts, split]
  | cons c piece ih =>
    have ne : c ≠ sep := fun same => free (same ▸ List.mem_cons_self)
    have later := ih fun mem => free (List.mem_cons_of_mem c mem)
    rw [List.cons_append, parts, later]
    simp [ne]

theorem parts_of_notMem (free : sep ∉ piece) : parts sep piece = [piece] := by
  induction piece with
  | nil => rfl
  | cons c piece ih =>
    have ne : c ≠ sep := fun same => free (same ▸ List.mem_cons_self)
    rw [parts, ih fun mem => free (List.mem_cons_of_mem c mem)]
    simp [ne]

end Phc

/-! ### What is written -/

/-- The characters of bytes in base64. -/
def chars (bs : Bytes) : List Char := (Base64.encode .standard bs).map Char.ofUInt8

theorem ofText_chars (bs : Bytes) : Bytes.ofText (String.ofList (chars bs)) = Base64.encode .standard bs :=
  Bytes.ofText_ofList_ascii fun _ mem => Base64.forall_mem_encode (P := fun b => b.toNat ≤ 127) (by decide) mem

theorem toText_encode (bs : Bytes) : toText (Base64.encode .standard bs) = String.ofList (chars bs) := by
  rw [← ofText_chars, toText, Bytes.text?_ofText]
  rfl

theorem forall_mem_chars {P : Char → Prop}
    (digits : ∀ i : Fin 64, P (Char.ofUInt8 (Base64.Alphabet.standard.digit (UInt8.ofNat i)))) {bs : Bytes} {c : Char}
    (mem : c ∈ chars bs) : P c := by
  obtain ⟨b, among, rfl⟩ := List.mem_map.1 mem
  exact Base64.forall_mem_encode (P := fun b => P (Char.ofUInt8 b)) digits among

theorem length_chars (bs : Bytes) : (chars bs).length = (4 * bs.length + 2) / 3 := by
  rw [chars, List.length_map, Base64.length_encode]

theorem dollar_notMem_chars (bs : Bytes) : '$' ∉ chars bs := fun mem =>
  forall_mem_chars (P := fun c => c ≠ '$') (by decide) mem rfl

variable {salt digest : Bytes}

theorem salt?_chars (enough : 8 ≤ salt.length) (few : salt.length ≤ 48) :
    Phc.salt? (chars salt) = some (String.ofList (chars salt)) := by
  have size := length_chars salt
  have letters : (chars salt).all Phc.isValueChar = true :=
    List.all_eq_true.2 fun c mem => forall_mem_chars (P := fun c => Phc.isValueChar c = true) (by decide) mem
  have value : Phc.isValue (chars salt) = true := by
    simp only [Phc.isValue, letters, Bool.and_true, decide_eq_true_eq]
    omega
  have long : 4 ≤ (chars salt).length := by omega
  simp [Phc.salt?, value, long]

theorem hash?_chars (size : digest.length = hashSize) : Phc.hash? (chars digest) = some digest := by
  have inside : 10 ≤ digest.length ∧ digest.length ≤ 64 := by
    rw [size]
    decide
  simp [Phc.hash?, ofText_chars, Base64.decode?_encode Base64.sound_standard, inside]

theorem parts_written (salt digest : Bytes) :
    Phc.parts '$' (currentHeader ++ String.ofList (chars salt) ++ "$" ++ String.ofList (chars digest)).toList =
      [[], "argon2id".toList, "v=19".toList, "m=19456,t=2,p=1".toList, chars salt, chars digest] := by
  have text : (currentHeader ++ String.ofList (chars salt) ++ "$" ++ String.ofList (chars digest)).toList =
      [] ++ '$' :: ("argon2id".toList ++ '$' :: ("v=19".toList ++ '$' :: ("m=19456,t=2,p=1".toList ++
        '$' :: (chars salt ++ '$' :: chars digest)))) := by
    simp [currentHeader, String.toList_append]
  rw [text, Phc.parts_append List.not_mem_nil, Phc.parts_append (by decide), Phc.parts_append (by decide),
    Phc.parts_append (by decide), Phc.parts_append (dollar_notMem_chars salt),
    Phc.parts_of_notMem (dollar_notMem_chars digest)]

theorem parse?_written (enough : 8 ≤ salt.length) (few : salt.length ≤ 48) (size : digest.length = hashSize) :
    Phc.parse? (currentHeader ++ String.ofList (chars salt) ++ "$" ++ String.ofList (chars digest)) =
      some ⟨"argon2id", some 19, [("m", "19456"), ("t", "2"), ("p", "1")], some (String.ofList (chars salt)), some digest⟩ := by
  have named : Phc.isName "argon2id".toList = true := by decide
  have version (rest : List (List Char)) : Phc.takeVersion ("v=19".toList :: rest) = some (some 19, rest) := rfl
  have params (rest : List (List Char)) : Phc.takeParams ("m=19456,t=2,p=1".toList :: rest) =
      some ([("m", "19456"), ("t", "2"), ("p", "1")], rest) := rfl
  rw [Phc.parse?, parts_written]
  simp only [named, if_true, version, params, salt?_chars enough few, hash?_chars size, Option.bind_eq_bind,
    Option.bind_some, Option.pure_def, String.ofList_toList]

/-- The password fits the hash that was made of it. -/
theorem verify_hash {password hashed : String} (enough : 8 ≤ salt.length) (few : salt.length ≤ 48)
    (made : hash salt password = .ok hashed) : verify password hashed = .ok true := by
  unfold hash at made
  dsimp only at made
  split at made
  · cases made
  next short =>
  have size : (Hash.Argon2.digest currentParams hashSize (Bytes.ofText password) salt).length = hashSize :=
    Hash.Argon2.length_digest currentParams (by decide) (Bytes.ofText password) salt
  obtain rfl := Except.ok.inj made
  rw [toText_encode, toText_encode]
  have read : salt? (String.ofList (chars salt)) = some salt := by
    simp [salt?, ofText_chars, Base64.decode?_encode Base64.sound_standard, enough]
  have params : params? ⟨"argon2id", some 19, [("m", "19456"), ("t", "2"), ("p", "1")],
      some (String.ofList (chars salt)),
      some (Hash.Argon2.digest currentParams hashSize (Bytes.ofText password) salt)⟩ = some currentParams := rfl
  rw [verify, parse?_written enough few size]
  dsimp only
  rw [params, read]
  dsimp only
  rw [if_neg short, size, beq_self_eq_true]

end Password
end Accounts
