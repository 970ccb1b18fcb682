import ChallengeGame.Commitment
import ChallengeGame.Rollup

/-!
# Configuration

What the challenger is told at start-up and the first thing that is wrong with it.
-/

namespace ChallengeGame

structure Config where
  rpcUrl : String
  contract : Address
  rollup : Rollup
  commitmentType : CommitmentType
  commitmentKind : CommitmentKind
  challenges : Bool
  resolves : Bool
  /-- whether bonds are unlocked and withdrawn -/
  managesBonds : Bool
  /-- milliseconds between two looks at the finalized head -/
  pollInterval : UInt64
  /-- blocks between two looks at a commitment, zero for a single look -/
  retryInterval : UInt64
  confirmations : UInt64
  /-- the account the node signs for -/
  sender? : Option Address
deriving DecidableEq

inductive ConfigError where
  | missingRpcUrl
  | missingInbox
  | missingContract
  | missingBatchers
  | missingKind
  | zeroPollInterval
  | nothingEnabled
deriving DecidableEq

def ConfigError.message : ConfigError → String
  | missingRpcUrl => "missing l1 eth rpc url"
  | missingInbox => "missing batch inbox address"
  | missingContract => "missing da challenge contract address"
  | missingBatchers => "missing batcher addresses"
  | missingKind => "missing generic da challenge kind"
  | zeroPollInterval => "poll interval must not be 0"
  | nothingEnabled => "at least one of challenging and resolving must be enabled"

namespace Config

/-- The first fault that keeps the service from running. -/
def fault? (config : Config) : Option ConfigError :=
  if config.rpcUrl.isEmpty then some .missingRpcUrl
  else if config.rollup.inbox.isZero then some .missingInbox
  else if config.contract.isZero then some .missingContract
  else if config.rollup.batchers.isEmpty then some .missingBatchers
  else if config.commitmentType = .generic ∧ config.commitmentKind = .undefined then some .missingKind
  else if config.pollInterval = 0 then some .zeroPollInterval
  else if !config.challenges && !config.resolves then some .nothingEnabled
  else none

end Config

end ChallengeGame
