import Accounts.Hash.Blake2b
/-! Argon2, the memory-hard password hash, in its three kinds and two versions. -/
namespace Accounts.Hash.Argon2

inductive Kind
  | d
  | i
  | id
  deriving DecidableEq, Repr

def Kind.number : Kind → Nat
  | .d => 0
  | .i => 1
  | .id => 2

inductive Version
  | v16
  | v19
  deriving DecidableEq, Repr

def Version.number : Version → Nat
  | .v16 => 16
  | .v19 => 19

/-- Sixteen words, kept unboxed. -/
structure Row where
  w0 : UInt64
  w1 : UInt64
  w2 : UInt64
  w3 : UInt64
  w4 : UInt64
  w5 : UInt64
  w6 : UInt64
  w7 : UInt64
  w8 : UInt64
  w9 : UInt64
  w10 : UInt64
  w11 : UInt64
  w12 : UInt64
  w13 : UInt64
  w14 : UInt64
  w15 : UInt64

namespace Row

def zero : Row := ⟨0, 0, 0, 0, 0, 0, 0, 0, 0, 0, 0, 0, 0, 0, 0, 0⟩

def xor (r s : Row) : Row :=
  ⟨r.w0 ^^^ s.w0, r.w1 ^^^ s.w1, r.w2 ^^^ s.w2, r.w3 ^^^ s.w3,
    r.w4 ^^^ s.w4, r.w5 ^^^ s.w5, r.w6 ^^^ s.w6, r.w7 ^^^ s.w7,
    r.w8 ^^^ s.w8, r.w9 ^^^ s.w9, r.w10 ^^^ s.w10, r.w11 ^^^ s.w11,
    r.w12 ^^^ s.w12, r.w13 ^^^ s.w13, r.w14 ^^^ s.w14, r.w15 ^^^ s.w15⟩

def toList (r : Row) : List UInt64 :=
  [r.w0, r.w1, r.w2, r.w3, r.w4, r.w5, r.w6, r.w7,
    r.w8, r.w9, r.w10, r.w11, r.w12, r.w13, r.w14, r.w15]

def ofList (ws : List UInt64) : Row :=
  let w (i : Nat) : UInt64 := ws.getD i 0
  ⟨w 0, w 1, w 2, w 3, w 4, w 5, w 6, w 7, w 8, w 9, w 10, w 11, w 12, w 13, w 14, w 15⟩

def get (r : Row) (i : Nat) : UInt64 :=
  match i with
  | 0 => r.w0
  | 1 => r.w1
  | 2 => r.w2
  | 3 => r.w3
  | 4 => r.w4
  | 5 => r.w5
  | 6 => r.w6
  | 7 => r.w7
  | 8 => r.w8
  | 9 => r.w9
  | 10 => r.w10
  | 11 => r.w11
  | 12 => r.w12
  | 13 => r.w13
  | 14 => r.w14
  | _ => r.w15

end Row

/-- A sum with the doubled product of the low halves. -/
@[inline] def blend (a b : UInt64) : UInt64 :=
  a + b + 2 * ((a &&& 0xFFFFFFFF) * (b &&& 0xFFFFFFFF))

@[inline] def rotate (x n : UInt64) : UInt64 := x >>> n ||| x <<< (64 - n)

/-- The mixing step on four words, which go on to `k`. -/
@[inline] def mix {α : Type} (a b c d : UInt64) (k : UInt64 → UInt64 → UInt64 → UInt64 → α) : α :=
  let a := blend a b
  let d := rotate (d ^^^ a) 32
  let c := blend c d
  let b := rotate (b ^^^ c) 24
  let a := blend a b
  let d := rotate (d ^^^ a) 16
  let c := blend c d
  let b := rotate (b ^^^ c) 63
  k a b c d

/-- Mixes the columns and then the diagonals of sixteen words seen as a square. -/
def Row.permute (r : Row) : Row :=
  mix r.w0 r.w4 r.w8 r.w12 fun w0 w4 w8 w12 =>
  mix r.w1 r.w5 r.w9 r.w13 fun w1 w5 w9 w13 =>
  mix r.w2 r.w6 r.w10 r.w14 fun w2 w6 w10 w14 =>
  mix r.w3 r.w7 r.w11 r.w15 fun w3 w7 w11 w15 =>
  mix w0 w5 w10 w15 fun w0 w5 w10 w15 =>
  mix w1 w6 w11 w12 fun w1 w6 w11 w12 =>
  mix w2 w7 w8 w13 fun w2 w7 w8 w13 =>
  mix w3 w4 w9 w14 fun w3 w4 w9 w14 =>
  ⟨w0, w1, w2, w3, w4, w5, w6, w7, w8, w9, w10, w11, w12, w13, w14, w15⟩

/-- One kilobyte as eight rows. -/
structure Block where
  r0 : Row
  r1 : Row
  r2 : Row
  r3 : Row
  r4 : Row
  r5 : Row
  r6 : Row
  r7 : Row

namespace Block

def zero : Block := ⟨.zero, .zero, .zero, .zero, .zero, .zero, .zero, .zero⟩

def xor (x y : Block) : Block :=
  ⟨x.r0.xor y.r0, x.r1.xor y.r1, x.r2.xor y.r2, x.r3.xor y.r3,
    x.r4.xor y.r4, x.r5.xor y.r5, x.r6.xor y.r6, x.r7.xor y.r7⟩

def rows (x : Block) : List Row := [x.r0, x.r1, x.r2, x.r3, x.r4, x.r5, x.r6, x.r7]

/-- The word at this place among the 128. -/
def get (x : Block) (i : Nat) : UInt64 :=
  ((x.rows[i / 16]?).getD .zero).get (i % 16)

def permuteRows (x : Block) : Block :=
  ⟨x.r0.permute, x.r1.permute, x.r2.permute, x.r3.permute,
    x.r4.permute, x.r5.permute, x.r6.permute, x.r7.permute⟩

/-- Pairs of words taken from each row become a row. -/
def turn (x : Block) : Block :=
  ⟨⟨x.r0.w0, x.r0.w1, x.r1.w0, x.r1.w1, x.r2.w0, x.r2.w1, x.r3.w0, x.r3.w1,
      x.r4.w0, x.r4.w1, x.r5.w0, x.r5.w1, x.r6.w0, x.r6.w1, x.r7.w0, x.r7.w1⟩,
    ⟨x.r0.w2, x.r0.w3, x.r1.w2, x.r1.w3, x.r2.w2, x.r2.w3, x.r3.w2, x.r3.w3,
      x.r4.w2, x.r4.w3, x.r5.w2, x.r5.w3, x.r6.w2, x.r6.w3, x.r7.w2, x.r7.w3⟩,
    ⟨x.r0.w4, x.r0.w5, x.r1.w4, x.r1.w5, x.r2.w4, x.r2.w5, x.r3.w4, x.r3.w5,
      x.r4.w4, x.r4.w5, x.r5.w4, x.r5.w5, x.r6.w4, x.r6.w5, x.r7.w4, x.r7.w5⟩,
    ⟨x.r0.w6, x.r0.w7, x.r1.w6, x.r1.w7, x.r2.w6, x.r2.w7, x.r3.w6, x.r3.w7,
      x.r4.w6, x.r4.w7, x.r5.w6, x.r5.w7, x.r6.w6, x.r6.w7, x.r7.w6, x.r7.w7⟩,
    ⟨x.r0.w8, x.r0.w9, x.r1.w8, x.r1.w9, x.r2.w8, x.r2.w9, x.r3.w8, x.r3.w9,
      x.r4.w8, x.r4.w9, x.r5.w8, x.r5.w9, x.r6.w8, x.r6.w9, x.r7.w8, x.r7.w9⟩,
    ⟨x.r0.w10, x.r0.w11, x.r1.w10, x.r1.w11, x.r2.w10, x.r2.w11, x.r3.w10, x.r3.w11,
      x.r4.w10, x.r4.w11, x.r5.w10, x.r5.w11, x.r6.w10, x.r6.w11, x.r7.w10, x.r7.w11⟩,
    ⟨x.r0.w12, x.r0.w13, x.r1.w12, x.r1.w13, x.r2.w12, x.r2.w13, x.r3.w12, x.r3.w13,
      x.r4.w12, x.r4.w13, x.r5.w12, x.r5.w13, x.r6.w12, x.r6.w13, x.r7.w12, x.r7.w13⟩,
    ⟨x.r0.w14, x.r0.w15, x.r1.w14, x.r1.w15, x.r2.w14, x.r2.w15, x.r3.w14, x.r3.w15,
      x.r4.w14, x.r4.w15, x.r5.w14, x.r5.w15, x.r6.w14, x.r6.w15, x.r7.w14, x.r7.w15⟩⟩

def toBytes (x : Block) : Bytes := x.rows.flatMap fun r => r.toList.flatMap fun w => little 8 w.toNat

def ofBytes (bs : Bytes) : Block :=
  let rows := (pieces 128 bs).map fun p => Row.ofList (littleWords p)
  let r (i : Nat) : Row := rows.getD i .zero
  ⟨r 0, r 1, r 2, r 3, r 4, r 5, r 6, r 7⟩

/-- Two blocks pressed into one: their sum, mixed along rows and across them, is added to itself. -/
def press (x y : Block) : Block :=
  let sum := x.xor y
  sum.permuteRows.turn.permuteRows.turn.xor sum

end Block

structure Params where
  /-- Memory in kilobytes. -/
  memory : Nat
  passes : Nat
  lanes : Nat
  kind : Kind
  version : Version
  /-- Further data that goes into the hash. -/
  data : Bytes

namespace Params

def segment (p : Params) : Nat := p.memory / (4 * p.lanes)

def laneLength (p : Params) : Nat := 4 * p.segment

def blocks (p : Params) : Nat := p.laneLength * p.lanes

end Params

/-- A hash of any length: short ones at once, long ones as a chain of half digests. -/
def stretch (size : Nat) (input : Bytes) : Bytes :=
  let input := little 4 size ++ input
  if size ≤ 64 then Blake2b.digest size input
  else
    let links := (size + 31) / 32 - 2
    chain size links (Blake2b.digest 64 input)
where
  chain (size : Nat) : Nat → Bytes → Bytes
    | 0, v => Blake2b.digest size v
    | 1, v => v.take 32 ++ Blake2b.digest (size - 32) v
    | n + 2, v => v.take 32 ++ chain (size - 32) (n + 1) (Blake2b.digest 64 v)

def seed (p : Params) (size : Nat) (password salt : Bytes) : Bytes :=
  let counted (bs : Bytes) : Bytes := little 4 bs.length ++ bs
  Blake2b.digest 64 (little 4 p.lanes ++ little 4 size ++ little 4 p.memory ++ little 4 p.passes ++
    little 4 p.version.number ++ little 4 p.kind.number ++ counted password ++ counted salt ++
    counted [] ++ counted p.data)

/-- Where the filling stands: pass, quarter of the lanes, lane. -/
structure Place where
  pass : Nat
  slice : Nat
  lane : Nat

/-- Whether the places to look at do not hang on the password. -/
def Place.independent (at_ : Place) (kind : Kind) : Bool :=
  match kind with
  | .d => false
  | .i => true
  | .id => at_.pass = 0 && at_.slice < 2

/-- The pseudo-random words for the next 128 blocks of a segment. -/
def addresses (p : Params) (at_ : Place) (counter : Nat) : Block :=
  let input : Block := { Block.zero with
    r0 := Row.ofList ([at_.pass, at_.lane, at_.slice, p.blocks, p.passes, p.kind.number, counter].map
      UInt64.ofNat) }
  Block.zero.press (Block.zero.press input)

/-- The block that a pseudo-random word points to, as lane and column. -/
def reference (p : Params) (at_ : Place) (index : Nat) (word : UInt64) : Nat × Nat :=
  let low := (word &&& 0xFFFFFFFF).toNat
  let high := (word >>> 32).toNat
  let lane := if at_.pass = 0 && at_.slice = 0 then at_.lane else high % p.lanes
  let same := lane = at_.lane
  let done := if at_.pass = 0 then at_.slice * p.segment else p.laneLength - p.segment
  let area := if same then done + index - 1 else if index = 0 then done - 1 else done
  let back := area * (low * low / 4294967296) / 4294967296
  let start := if at_.pass = 0 || at_.slice = 3 then 0 else (at_.slice + 1) * p.segment
  (lane, (start + (area - 1 - back)) % p.laneLength)

def blockAt (p : Params) (memory : Array Block) (lane column : Nat) : Block :=
  memory.getD (lane * p.laneLength + column) .zero

/-- Fills one segment from `index` on; `words` holds the current pseudo-random block. -/
def fillSegment (p : Params) (at_ : Place) : Nat → Nat → Block → Array Block → Array Block
  | 0, _, _, memory => memory
  | left + 1, index, words, memory =>
    let words := if at_.independent p.kind && index % 128 = 0 then addresses p at_ (index / 128 + 1) else words
    let column := at_.slice * p.segment + index
    let previous := blockAt p memory at_.lane ((column + p.laneLength - 1) % p.laneLength)
    let word := if at_.independent p.kind then words.get (index % 128) else previous.get 0
    let (lane, other) := reference p at_ index word
    let fresh := previous.press (blockAt p memory lane other)
    let fresh := if at_.pass = 0 || p.version = .v16 then fresh
      else fresh.xor (blockAt p memory at_.lane column)
    fillSegment p at_ left (index + 1) words
      (memory.setIfInBounds (at_.lane * p.laneLength + column) fresh)

def fillPlace (p : Params) (memory : Array Block) (at_ : Place) : Array Block :=
  if at_.pass = 0 && at_.slice = 0 then
    let words := if at_.independent p.kind then addresses p at_ 1 else .zero
    fillSegment p at_ (p.segment - 2) 2 words memory
  else fillSegment p at_ p.segment 0 .zero memory

def places (p : Params) : List Place :=
  (List.range p.passes).flatMap fun pass =>
    (List.range 4).flatMap fun slice =>
      (List.range p.lanes).map fun lane => ⟨pass, slice, lane⟩

def start (p : Params) (seed : Bytes) : Array Block :=
  (List.range p.lanes).foldl (fun memory lane =>
    let first (column : Nat) : Block :=
      .ofBytes (stretch 1024 (seed ++ little 4 column ++ little 4 lane))
    (memory.setIfInBounds (lane * p.laneLength) (first 0)).setIfInBounds (lane * p.laneLength + 1) (first 1))
    (Array.replicate p.blocks .zero)

def digest (p : Params) (size : Nat) (password salt : Bytes) : Bytes :=
  let memory := (places p).foldl (fillPlace p) (start p (seed p size password salt))
  let last := (List.range p.lanes).foldl
    (fun sum lane => sum.xor (blockAt p memory lane (p.laneLength - 1))) Block.zero
  stretch size last.toBytes

end Accounts.Hash.Argon2
