import ChallengeGame.Config
import ChallengeGame.Node.Submission
import ChallengeGame.Url

/-!
# The node endpoint of a configuration

A client can be made for any absolute address. Sending needs an account that the node
signs for.
-/

namespace ChallengeGame

namespace Config

/-- The account a client for the configured node sends from, if there is one. -/
def clientSender (config : Config) : Except Failure (Option Address) :=
  if Url.isAbsolute config.rpcUrl then .ok config.sender?
  else .error ⟨"invalid l1 rpc url " ++ config.rpcUrl, []⟩

def sendingAccount (config : Config) : Except Failure Address :=
  config.clientSender.bind Node.sendingAccount

end Config

end ChallengeGame
