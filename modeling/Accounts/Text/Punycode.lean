/-! Names outside ASCII written in letters, digits and hyphens: the ASCII characters first, then where the others go
among them, in the order of their code points and as differences in digits of base 36. -/
namespace Accounts.Punycode

/-- The letters stand for 0 to 25, the digits for 26 to 35. -/
def digit (d : Nat) : Char := Char.ofNat (if d < 26 then 'a'.toNat + d else '0'.toNat + (d - 26))

/-- A digit below this one is the last of its number. -/
def threshold (bias k : Nat) : Nat := min 26 (max 1 (k - bias))

theorem threshold_pos (bias k : Nat) : 0 < threshold bias k := by
  unfold threshold; omega

/-- A number from its lowest digit on, which is at position `k`. -/
def digits (bias k n : Nat) : List Char :=
  let t := threshold bias k
  if n < t then [digit n] else digit (t + (n - t) % (36 - t)) :: digits bias (k + 36) ((n - t) / (36 - t))
  termination_by n
  decreasing_by
    have := threshold_pos bias k
    have := Nat.div_le_self (n - threshold bias k) (36 - threshold bias k)
    omega

/-- A difference cut down to a small number, and what that adds to the bias. -/
def damped (n bias : Nat) : Nat × Nat :=
  if 455 < n then damped (n / 35) (bias + 36) else (n, bias)
  termination_by n
  decreasing_by omega

/-- The bias after a difference that made `count` characters known; the first difference counts less. -/
def nextBias (n count : Nat) (first : Bool) : Nat :=
  let half := if first then n / 700 else n / 2
  let (small, bias) := damped (half + half / count) 0
  bias + 36 * small / (small + 38)

structure Coder where
  written : List Char
  /-- How many characters were passed over since the last one was written. -/
  skipped : Nat
  bias : Nat
  /-- How many characters are known. -/
  known : Nat

/-- Passes the code point `n` while `m` is written. -/
def pass (basic m : Nat) (s : Coder) (n : Nat) : Coder :=
  if n < m then { s with skipped := s.skipped + 1 }
  else if n = m then
    { written := s.written ++ digits s.bias 36 s.skipped
      skipped := 0
      bias := nextBias s.skipped (s.known + 1) (s.known = basic)
      known := s.known + 1 }
  else s

/-- Writes all characters of a name with the code points in turn, which ascend from `n` on. -/
def writeFrom (points : List Nat) (basic : Nat) (n : Nat) (s : Coder) : List Nat → Coder
  | [] => s
  | m :: rest =>
    let start := { s with skipped := s.skipped + (m - n) * (s.known + 1) }
    let next := points.foldl (pass basic m) start
    writeFrom points basic (m + 1) { next with skipped := next.skipped + 1 } rest

/-- A name with its ASCII characters, a hyphen if there are any, and the digits for the others. -/
def encode (name : List Char) : List Char :=
  let plain := name.filter fun c => c.toNat < 128
  let others := ((name.map Char.toNat).filter (128 ≤ ·)).mergeSort.eraseDups
  plain ++ (if plain.isEmpty then [] else ['-']) ++
  (writeFrom (name.map Char.toNat) plain.length 128 ⟨[], 0, 72, plain.length⟩ others).written

end Accounts.Punycode
