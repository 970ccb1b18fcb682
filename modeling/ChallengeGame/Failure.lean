/-!
# Failures of collaborators

What a node, a sender or a fetcher reports when it fails: a text and the texts of
its causes, outermost first.
-/

namespace ChallengeGame

structure Failure where
  text : String
  causes : List String := []
deriving DecidableEq

namespace Failure

def under (context : String) (failure : Failure) : Failure :=
  ⟨context, failure.text :: failure.causes⟩

/-- The texts from the outermost to the innermost. -/
def chain (failure : Failure) : List String :=
  failure.text :: failure.causes

end Failure

end ChallengeGame
