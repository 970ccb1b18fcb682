import ChallengeGame.Bytes.Hex

/-!
# L1 blocks

Block numbers and times are 64-bit. Deadlines are sums that stop at the largest
block number, so a deadline never wraps around to an early block.
-/

namespace ChallengeGame

abbrev BlockNumber := UInt64

namespace BlockNumber

/-- The block `distance` blocks after this one, or the last block there can be. -/
def later (block : BlockNumber) (distance : UInt64) : BlockNumber :=
  if block.toNat + distance.toNat < UInt64.size then block + distance else 0xFFFFFFFFFFFFFFFF

theorem toNat_later (block : BlockNumber) (distance : UInt64) :
    (later block distance).toNat = min (block.toNat + distance.toNat) (UInt64.size - 1) := by
  unfold later
  split
  · rename_i h
    rw [UInt64.toNat_add, Nat.mod_eq_of_lt h]
    omega
  · have last : (0xFFFFFFFFFFFFFFFF : UInt64).toNat = UInt64.size - 1 := rfl
    rw [last]
    omega

theorem le_later (block : BlockNumber) (distance : UInt64) : block ≤ block.later distance := by
  have bound := block.toNat_lt
  have size : UInt64.size = 2 ^ 64 := rfl
  rw [UInt64.le_iff_toNat_le, toNat_later]
  omega

end BlockNumber

structure BlockId where
  hash : Hash
  number : BlockNumber
deriving DecidableEq

/-- A block as the feed of finalized heads reports it. -/
structure BlockRef where
  hash : Hash
  number : BlockNumber
  parent : Hash
  time : UInt64
deriving DecidableEq

namespace BlockRef

def id (block : BlockRef) : BlockId := ⟨block.hash, block.number⟩

def describe (block : BlockRef) : String :=
  Hex.encode block.hash.bytes ++ ":" ++ toString block.number.toNat

end BlockRef

/-- A transaction of an L1 block, as far as batch data needs it. -/
structure L1Transaction where
  hash : Hash
  sender : Address
  to? : Option Address
  input : Bytes
  blobs : List Hash
deriving DecidableEq

/-- A blob together with the number of blobs before it in its block. -/
structure IndexedBlob where
  index : UInt64
  hash : Hash
deriving DecidableEq

end ChallengeGame
