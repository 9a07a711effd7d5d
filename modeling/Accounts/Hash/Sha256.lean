import Accounts.Hash.Words
/-! SHA-256. -/
namespace Accounts.Hash.Sha256

def roundConstants : List UInt32 :=
  [0x428a2f98, 0x71374491, 0xb5c0fbcf, 0xe9b5dba5, 0x3956c25b, 0x59f111f1, 0x923f82a4, 0xab1c5ed5,
    0xd807aa98, 0x12835b01, 0x243185be, 0x550c7dc3, 0x72be5d74, 0x80deb1fe, 0x9bdc06a7, 0xc19bf174,
    0xe49b69c1, 0xefbe4786, 0x0fc19dc6, 0x240ca1cc, 0x2de92c6f, 0x4a7484aa, 0x5cb0a9dc, 0x76f988da,
    0x983e5152, 0xa831c66d, 0xb00327c8, 0xbf597fc7, 0xc6e00bf3, 0xd5a79147, 0x06ca6351, 0x14292967,
    0x27b70a85, 0x2e1b2138, 0x4d2c6dfc, 0x53380d13, 0x650a7354, 0x766a0abb, 0x81c2c92e, 0x92722c85,
    0xa2bfe8a1, 0xa81a664b, 0xc24b8b70, 0xc76c51a3, 0xd192e819, 0xd6990624, 0xf40e3585, 0x106aa070,
    0x19a4c116, 0x1e376c08, 0x2748774c, 0x34b0bcb5, 0x391c0cb3, 0x4ed8aa4a, 0x5b9cca4f, 0x682e6ff3,
    0x748f82ee, 0x78a5636f, 0x84c87814, 0x8cc70208, 0x90befffa, 0xa4506ceb, 0xbef9a3f7, 0xc67178f2]

structure State where
  a : UInt32
  b : UInt32
  c : UInt32
  d : UInt32
  e : UInt32
  f : UInt32
  g : UInt32
  h : UInt32

def State.start : State :=
  ⟨0x6a09e667, 0xbb67ae85, 0x3c6ef372, 0xa54ff53a, 0x510e527f, 0x9b05688c, 0x1f83d9ab, 0x5be0cd19⟩

def State.add (s t : State) : State :=
  ⟨s.a + t.a, s.b + t.b, s.c + t.c, s.d + t.d, s.e + t.e, s.f + t.f, s.g + t.g, s.h + t.h⟩

def State.toBytes (s : State) : Bytes :=
  [s.a, s.b, s.c, s.d, s.e, s.f, s.g, s.h].flatMap fun w => big 4 w.toNat

def rotateRight (x n : UInt32) : UInt32 := x >>> n ||| x <<< (32 - n)

def State.round (s : State) (w k : UInt32) : State :=
  let s1 := rotateRight s.e 6 ^^^ rotateRight s.e 11 ^^^ rotateRight s.e 25
  let choice := (s.e &&& s.f) ^^^ (~~~s.e &&& s.g)
  let t := s.h + s1 + choice + k + w
  let s0 := rotateRight s.a 2 ^^^ rotateRight s.a 13 ^^^ rotateRight s.a 22
  let majority := (s.a &&& s.b) ^^^ (s.a &&& s.c) ^^^ (s.b &&& s.c)
  ⟨t + (s0 + majority), s.a, s.b, s.c, s.d + t, s.e, s.f, s.g⟩

/-- The last sixteen words, newest first, with one more in front. -/
def extend (recent : List UInt32) : UInt32 :=
  match recent with
  | [_, w2, _, _, _, _, w7, _, _, _, _, _, _, _, w15, w16] =>
    let s0 := rotateRight w15 7 ^^^ rotateRight w15 18 ^^^ w15 >>> 3
    let s1 := rotateRight w2 17 ^^^ rotateRight w2 19 ^^^ w2 >>> 10
    w16 + s0 + w7 + s1
  | _ => 0

/-- Runs the rounds of one block: the given words first, then words made from the last sixteen. -/
def rounds (words recent : List UInt32) (s : State) : List UInt32 → State
  | [] => s
  | k :: ks =>
    let (w, words) := match words with
      | w :: words => (w, words)
      | [] => (extend recent, [])
    rounds words ((w :: recent).take 16) (s.round w k) ks

def compress (s : State) (block : Bytes) : State :=
  let words := (pieces 4 block).map fun p => UInt32.ofNat (ofBig p)
  s.add (rounds words [] s roundConstants)

/-- The message, a one bit, zeros up to eight bytes before the end of a block, and its length in bits. -/
def padded (message : Bytes) : Bytes :=
  message ++ 0x80 :: List.replicate ((119 - message.length % 64) % 64) 0 ++ big 8 (message.length * 8)

def digest (message : Bytes) : Bytes :=
  ((pieces 64 (padded message)).foldl compress State.start).toBytes

def hmac (key message : Bytes) : Bytes :=
  let key := if 64 < key.length then digest key else key
  let key := key ++ List.replicate (64 - key.length) 0
  digest (key.map (· ^^^ 0x5C) ++ digest (key.map (· ^^^ 0x36) ++ message))

end Accounts.Hash.Sha256
