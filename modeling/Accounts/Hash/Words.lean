import Accounts.Text.Bytes
/-! Machine words as byte sequences. -/
namespace Accounts.Hash

/-- The number that these bytes write, the least significant byte first. -/
def ofLittle (bs : Bytes) : Nat := bs.foldr (fun b n => n * 256 + b.toNat) 0

def little (count n : Nat) : Bytes := (List.range count).map fun i => UInt8.ofNat (n / Nat.pow 256 i)

/-- The number that these bytes write, the most significant byte first. -/
def ofBig (bs : Bytes) : Nat := bs.foldl (fun n b => n * 256 + b.toNat) 0

def big (count n : Nat) : Bytes := (little count n).reverse

/-- Consecutive pieces of `size` bytes; the last one may be shorter. -/
def pieces (size : Nat) (bs : Bytes) : List Bytes :=
  if _ : size = 0 ∨ bs = [] then [] else bs.take size :: pieces size (bs.drop size)
  termination_by bs.length
  decreasing_by
    have : bs.length ≠ 0 := by simp_all
    simp
    omega

def littleWords (bs : Bytes) : List UInt64 := (pieces 8 bs).map fun p => UInt64.ofNat (ofLittle p)

end Accounts.Hash
