import ChallengeGame.Block

/-!
# The rollup's place on L1

Batches are transactions from a known batcher to the batch inbox. From a set time on
they may carry their data in blobs.
-/

namespace ChallengeGame

structure Rollup where
  inbox : Address
  batchers : List Address
  /-- when blob batches start, if they ever do -/
  ecotoneTime? : Option UInt64
deriving DecidableEq

namespace Rollup

def isEcotone (rollup : Rollup) (time : UInt64) : Bool :=
  match rollup.ecotoneTime? with
  | some activation => activation ≤ time
  | none => false

def isBatch (rollup : Rollup) (transaction : L1Transaction) : Bool :=
  transaction.to? == some rollup.inbox && rollup.batchers.contains transaction.sender

end Rollup

end ChallengeGame
