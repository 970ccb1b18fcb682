import ChallengeGame.Failure

/-!
# The provider of committed inputs

It follows L1 and knows which challenges run. Most of its refusals are no faults: they
say what state a commitment is in.
-/

namespace ChallengeGame

inductive ProviderError where
  /-- what the provider tracked is no longer on the chain -/
  | reorgRequired
  /-- the input is missing and a challenge for it runs -/
  | activeChallenge
  /-- the input is missing and nobody has challenged it -/
  | pendingChallenge
  | expiredChallenge
  /-- the input is missing and it is too late to challenge it -/
  | missingPastWindow
  | other (failure : Failure)
deriving DecidableEq

namespace ProviderError

def message : ProviderError → String
  | reorgRequired => "reorg required"
  | activeChallenge => "challenge in progress"
  | pendingChallenge => "input is missing and not yet challenged"
  | expiredChallenge => "challenge expired"
  | missingPastWindow => "input is missing past the challenge window"
  | other failure => failure.text

def failure (error : ProviderError) : Failure :=
  match error with
  | other cause => cause
  | _ => ⟨error.message, []⟩

end ProviderError

end ChallengeGame
