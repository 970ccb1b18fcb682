import ChallengeGame.Challenge
import ChallengeGame.Table

/-!
# Bonds to unlock

Every delivered challenge locks a bond. The ledger remembers it until its unlocking
was handed on, which is possible at heads past both protocol windows.
-/

namespace ChallengeGame

structure LockedBond where
  unlockableAfter : BlockNumber
  posting : Posting
deriving DecidableEq

structure BondLedger where
  entries : Table LockedBond

namespace BondLedger

def empty : BondLedger := ⟨Table.empty⟩

def size (ledger : BondLedger) : Nat := ledger.entries.size

def insert (ledger : BondLedger) (block : BlockNumber) (commitment : Commitment)
    (unlockableAfter : BlockNumber) : BondLedger :=
  ⟨ledger.entries.insert (Table.Key.of block commitment)
    ⟨unlockableAfter, Posting.of block commitment⟩⟩

/-- The bonds that may be unlocked at a head with the blocks of their commitments,
oldest first. -/
def eligible (ledger : BondLedger) (head : BlockNumber) : List (BlockNumber × Posting) :=
  (ledger.entries.filter fun _ bond => bond.unlockableAfter < head).entries.map
    fun entry => (entry.1.block, entry.2.posting)

/-- Forgets the bond of the commitment with the posting's bytes in a block. The block
in the posting itself is not looked at. -/
def remove (ledger : BondLedger) (block : BlockNumber) (posting : Posting) : BondLedger :=
  ⟨ledger.entries.erase ⟨block, posting.commitment⟩⟩

end BondLedger

end ChallengeGame
