import Accounts.Text.Hex
/-! JSON strings: a quote, a backslash and control characters are escaped, all else stands for itself.
Main statement: every text is read back from its written form. -/
namespace Accounts.Json.Quoted

/-- The letter of the short escape for this control character. -/
def shortEscape? (b : UInt8) : Option Char :=
  if b = 0x08 then some 'b' else if b = 0x09 then some 't' else if b = 0x0A then some 'n'
  else if b = 0x0C then some 'f' else if b = 0x0D then some 'r' else none

def escapeByte (b : UInt8) : Bytes :=
  if b = '"'.toUInt8 || b = '\\'.toUInt8 then ['\\'.toUInt8, b]
  else if b < 0x20 then
    match shortEscape? b with
    | some c => ['\\'.toUInt8, c.toUInt8]
    | none => Bytes.ofText "\\u00" ++ [Hex.lower (b / 16), Hex.lower (b % 16)]
  else [b]

def escape (bs : Bytes) : Bytes := bs.flatMap escapeByte

def short? (b : UInt8) : Option UInt8 :=
  match Char.ofUInt8 b with
  | '"' => some b
  | '\\' => some b
  | '/' => some b
  | 'b' => some 0x08
  | 'f' => some 0x0C
  | 'n' => some 0x0A
  | 'r' => some 0x0D
  | 't' => some 0x09
  | _ => none

def unit? (a b c d : UInt8) : Option Nat := do
  let a ← Hex.value? a
  let b ← Hex.value? b
  let c ← Hex.value? c
  let d ← Hex.value? d
  return ((a.toNat * 16 + b.toNat) * 16 + c.toNat) * 16 + d.toNat

def isLead (n : Nat) : Bool := 0xD800 ≤ n && n ≤ 0xDBFF

def isTrail (n : Nat) : Bool := 0xDC00 ≤ n && n ≤ 0xDFFF

/-- The code point that two surrogates write. -/
def joined (n m : Nat) : Nat := 0x10000 + (n - 0xD800) * 0x400 + (m - 0xDC00)

def codePoint (n : Nat) : Bytes := String.utf8EncodeChar (Char.ofNat n)

/-- The bytes meant by the inside of the quotes. An escaped surrogate has to be one of a pair. -/
def unescape? : Bytes → Option Bytes
  | [] => some []
  | b :: rest =>
    if b ≠ '\\'.toUInt8 then (unescape? rest).map (b :: ·)
    else match rest with
      | [] => none
      | e :: rest =>
        if e ≠ 'u'.toUInt8 then (short? e).bind fun byte => (unescape? rest).map (byte :: ·)
        else match rest with
          | p :: q :: r :: s :: rest =>
            (unit? p q r s).bind fun n =>
              if isLead n then
                match rest with
                | b :: e :: p :: q :: r :: s :: rest =>
                  if b = '\\'.toUInt8 && e = 'u'.toUInt8 then
                    (unit? p q r s).bind fun m =>
                      if isTrail m then (unescape? rest).map (codePoint (joined n m) ++ ·) else none
                  else none
                | _ => none
              else if isTrail n then none
              else (unescape? rest).map (codePoint n ++ ·)
          | _ => none

/-- Whether all is sound but an escape at the very end, which is the first half of a pair. -/
def endsInHalf (inside : Bytes) : Bool :=
  (unescape? (inside.take (inside.length - 6))).isSome &&
  match inside.drop (inside.length - 6) with
  | [b, e, p, q, r, s] => b = '\\'.toUInt8 && e = 'u'.toUInt8 && (unit? p q r s).any isLead
  | _ => false

/-- The text meant by the inside of the quotes, which is UTF-8. -/
def decode? (inside : Bytes) : Option String := (unescape? inside).bind Bytes.text?

def encode (s : String) : Bytes := '"'.toUInt8 :: escape (Bytes.ofText s) ++ ['"'.toUInt8]

/-- The inside of a string up to its closing quote, and what follows. A control character, an
unknown escape and the end of the text are refused. -/
def split? : Bytes → Option (Bytes × Bytes)
  | [] => none
  | b :: rest =>
    if b = '"'.toUInt8 then some ([], rest)
    else if b = '\\'.toUInt8 then
      match rest with
      | e :: rest =>
        if (short? e).isSome then (split? rest).map fun (inside, rest) => (b :: e :: inside, rest)
        else if e = 'u'.toUInt8 then
          match rest with
          | p :: q :: r :: s :: rest =>
            if (unit? p q r s).isSome then
              (split? rest).map fun (inside, rest) => (b :: e :: p :: q :: r :: s :: inside, rest)
            else none
          | _ => none
        else none
      | [] => none
    else if b < 0x20 then none
    else (split? rest).map fun (inside, rest) => (b :: inside, rest)

theorem split?_length {bs inside rest : Bytes} (h : split? bs = some (inside, rest)) :
    rest.length < bs.length := by
  fun_induction split? bs generalizing inside rest <;> simp_all <;> grind

/-- The inside is found as well if more follows. -/
theorem split?_append {bs inside r : Bytes} (h : split? bs = some (inside, r)) (rest : Bytes) :
    split? (bs ++ rest) = some (inside, r ++ rest) := by
  fun_induction split? bs generalizing inside r with
  | case2 after =>
    cases h
    simp only [List.cons_append]
    conv => lhs; unfold split?
    simp
  | case3 e after short slash ih =>
    obtain ⟨⟨inner, last⟩, found, same⟩ := Option.map_eq_some_iff.1 h
    cases same
    simp only [List.cons_append]
    conv => lhs; unfold split?
    simp [slash, short, ih found]
  | case4 p q r s after unit slash short ih =>
    obtain ⟨⟨inner, last⟩, found, same⟩ := Option.map_eq_some_iff.1 h
    cases same
    simp only [List.cons_append]
    conv => lhs; unfold split?
    simp [slash, short, unit, ih found]
  | case10 b after quote slash wide ih =>
    obtain ⟨⟨inner, last⟩, found, same⟩ := Option.map_eq_some_iff.1 h
    cases same
    simp only [List.cons_append]
    conv => lhs; unfold split?
    simp [quote, slash, wide, ih found]
  | _ => cases h

/-- Whether these bytes are an escape that stands for `b` alone. -/
private def escapes (b : UInt8) : Bytes → Bool
  | [k, e] => k == 92 && e != 117 && short? e == some b
  | [k, u, p, q, r, s] => k == 92 && u == 117 && unit? p q r s == some b.toNat &&
      codePoint b.toNat == [b] && !isLead b.toNat && !isTrail b.toNat
  | _ => false

private theorem unescape?_of_escapes {b : UInt8} {e : Bytes} (h : escapes b e = true) (rest : Bytes) :
    unescape? (e ++ rest) = (unescape? rest).map (b :: ·) := by
  have slash : '\\'.toUInt8 = 92 := rfl
  have letter : 'u'.toUInt8 = 117 := rfl
  unfold escapes at h
  split at h
  · simp only [Bool.and_eq_true, beq_iff_eq, bne_iff_ne] at h
    obtain ⟨⟨rfl, hu⟩, hs⟩ := h
    show unescape? (92 :: _ :: rest) = _
    conv => lhs; unfold unescape?
    simp [hs, hu, slash, letter]
  · simp only [Bool.and_eq_true, beq_iff_eq, Bool.not_eq_true'] at h
    obtain ⟨⟨⟨⟨⟨rfl, rfl⟩, hn⟩, hc⟩, hl⟩, ht⟩ := h
    show unescape? (92 :: 117 :: _ :: _ :: _ :: _ :: rest) = _
    conv => lhs; unfold unescape?
    simp [hn, hc, hl, ht, slash, letter]
  · simp at h

theorem unescape?_escapeByte (b : UInt8) (rest : Bytes) :
    unescape? (escapeByte b ++ rest) = (unescape? rest).map (b :: ·) := by
  by_cases control : b < 0x20
  · have all : ∀ i : Fin 32, escapes (UInt8.ofNat i) (escapeByte (UInt8.ofNat i)) = true := by
      decide +kernel
    exact unescape?_of_escapes (by simpa using all ⟨b.toNat, control⟩) rest
  · by_cases quote : b = '"'.toUInt8
    · subst quote
      exact unescape?_of_escapes (by decide) rest
    · by_cases slash : b = '\\'.toUInt8
      · subst slash
        exact unescape?_of_escapes (by decide) rest
      · simp only [escapeByte, control, quote, slash, decide_false, Bool.or_false, Bool.false_eq_true,
          if_false, List.cons_append, List.nil_append]
        conv => lhs; unfold unescape?
        simp [slash]

theorem unescape?_escape (bs : Bytes) : unescape? (escape bs) = some bs := by
  induction bs with
  | nil => rfl
  | cons b bs ih =>
    rw [show escape (b :: bs) = escapeByte b ++ escape bs by simp [escape], unescape?_escapeByte, ih]
    rfl

private theorem split?_of_escapes {b : UInt8} {e : Bytes} (h : escapes b e = true) (rest : Bytes) :
    split? (e ++ rest) = (split? rest).map fun (inside, after) => (e ++ inside, after) := by
  have slash : '\\'.toUInt8 = 92 := rfl
  have letter : 'u'.toUInt8 = 117 := rfl
  have quote : '"'.toUInt8 = 34 := rfl
  unfold escapes at h
  split at h
  · simp only [Bool.and_eq_true, beq_iff_eq, bne_iff_ne] at h
    obtain ⟨⟨rfl, hu⟩, hs⟩ := h
    show split? (92 :: _ :: rest) = _
    conv => lhs; unfold split?
    simp [hs, slash, quote]
  · simp only [Bool.and_eq_true, beq_iff_eq, Bool.not_eq_true'] at h
    obtain ⟨⟨⟨⟨⟨rfl, rfl⟩, hn⟩, -⟩, -⟩, -⟩ := h
    show split? (92 :: 117 :: _ :: _ :: _ :: _ :: rest) = _
    have long : short? 117 = none := by decide
    conv => lhs; unfold split?
    simp [hn, slash, letter, quote, long]
  · simp at h

theorem split?_escapeByte (b : UInt8) (rest : Bytes) :
    split? (escapeByte b ++ rest) = (split? rest).map fun (inside, after) => (escapeByte b ++ inside, after) := by
  by_cases control : b < 0x20
  · have all : ∀ i : Fin 32, escapes (UInt8.ofNat i) (escapeByte (UInt8.ofNat i)) = true := by
      decide +kernel
    exact split?_of_escapes (by simpa using all ⟨b.toNat, control⟩) rest
  · by_cases quote : b = '"'.toUInt8
    · subst quote
      exact split?_of_escapes (b := '"'.toUInt8) (by decide) rest
    · by_cases slash : b = '\\'.toUInt8
      · subst slash
        exact split?_of_escapes (b := '\\'.toUInt8) (by decide) rest
      · simp only [escapeByte, control, quote, slash, decide_false, Bool.or_false, Bool.false_eq_true,
          if_false, List.cons_append, List.nil_append]
        conv => lhs; unfold split?
        simp [slash, quote, control]

/-- The inside of a written text ends at the quote after it. -/
theorem split?_escape (bs rest : Bytes) : split? (escape bs ++ '"'.toUInt8 :: rest) = some (escape bs, rest) := by
  induction bs with
  | nil =>
    conv => lhs; unfold split?
    rfl
  | cons b bs ih =>
    rw [show escape (b :: bs) = escapeByte b ++ escape bs by simp [escape], List.append_assoc,
      split?_escapeByte, ih]
    rfl

theorem decode?_escape (s : String) : decode? (escape (Bytes.ofText s)) = some s := by
  simp [decode?, unescape?_escape, Bytes.text?_ofText]

end Accounts.Json.Quoted
