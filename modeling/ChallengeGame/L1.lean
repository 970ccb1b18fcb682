import ChallengeGame.Block
import ChallengeGame.Failure

/-!
# Reading L1

The ways in which the transactions of a block can be withheld.
-/

namespace ChallengeGame

inductive L1Error where
  /-- the node does not know the block -/
  | notFound (hash : Hash)
  | other (failure : Failure)
deriving DecidableEq

def L1Error.message : L1Error → String
  | notFound hash => "block " ++ Hex.encode hash.bytes ++ " not found"
  | other failure => failure.text

end ChallengeGame
