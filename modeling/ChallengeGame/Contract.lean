import ChallengeGame.Challenge
import ChallengeGame.Failure

/-!
# The challenge contract

What can be asked of a challenge contract, whoever answers: bond accounting, candidates
for transactions, and read-only questions. Making a candidate submits nothing.
-/

namespace ChallengeGame.Contract

inductive Method where
  | version
  | challengeWindow
  | resolveWindow
  | bondSize
  | balances
  | deposit
  | withdraw
  | getChallenge
  | getChallengeStatus
  | validateCommitment
  | challenge
  | resolve
  | unlockBond
deriving DecidableEq

def Method.all : List Method := [
  .version, .challengeWindow, .resolveWindow, .bondSize, .balances, .deposit, .withdraw,
  .getChallenge, .getChallengeStatus, .validateCommitment, .challenge, .resolve, .unlockBond]

def Method.name : Method → String
  | version => "version"
  | challengeWindow => "challengeWindow"
  | resolveWindow => "resolveWindow"
  | bondSize => "bondSize"
  | balances => "balances"
  | deposit => "deposit"
  | withdraw => "withdraw"
  | getChallenge => "getChallenge"
  | getChallengeStatus => "getChallengeStatus"
  | validateCommitment => "validateCommitment"
  | challenge => "challenge"
  | resolve => "resolve"
  | unlockBond => "unlockBond"

def supportedVersion : String := "1.0.0"

end Contract

inductive ContractError where
  /-- the call reverted; for the unlocking of a bond, it is still locked -/
  | simulationFailed (method : Contract.Method) (reason : String)
  | unsupportedVersion (found : String)
  | decode (method : Contract.Method) (reason : String)
  | encode (method : Contract.Method) (reason : String)
  | call (method : Contract.Method) (cause : Failure)
deriving DecidableEq

namespace ContractError

def message : ContractError → String
  | simulationFailed method reason => "simulation of " ++ method.name ++ " failed: " ++ reason
  | unsupportedVersion found =>
    "unrecognized version for challenge contract " ++ found ++ ", expected " ++ Contract.supportedVersion
  | decode method reason => "failed to decode " ++ method.name ++ " output: " ++ reason
  | encode method reason => "failed to encode " ++ method.name ++ " call: " ++ reason
  | call method _ => "call to " ++ method.name ++ " failed"

def failure (error : ContractError) : Failure :=
  match error with
  | call _ cause => ⟨error.message, cause.chain⟩
  | _ => ⟨error.message, []⟩

end ContractError

namespace Contract

inductive Request where
  | bondSize
  | balance (account : Address)
  | deposit (value : Word)
  | challenge (posting : Posting)
  | resolve (resolution : Resolution)
  | unlockBond (posting : Posting)
  | withdraw
  | challengeWindow
  | resolveWindow
  | record (posting : Posting)
  | status (posting : Posting)
  | validate (commitment : Bytes)
deriving DecidableEq

namespace Request

def Answer : Request → Type
  | bondSize => Word
  | balance _ => Word
  | deposit _ => Candidate
  | challenge _ => Candidate
  | resolve _ => Candidate
  | unlockBond _ => Candidate
  | withdraw => Candidate
  | challengeWindow => Word
  | resolveWindow => Word
  | record _ => Challenge
  | status _ => ChallengeStatus
  | validate _ => Bool

abbrev Reply (request : Request) : Type := Except ContractError request.Answer

end Request

end Contract

end ChallengeGame
