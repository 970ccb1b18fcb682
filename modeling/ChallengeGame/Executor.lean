import ChallengeGame.Contract
import ChallengeGame.Program

/-!
# Executors

An executor turns one job into questions to the contract and at most one submission.
Nothing is submitted unless every candidate could be made, and a challenge is always
submitted together with the deposit it needs.
-/

namespace ChallengeGame

/-- What is handed to the executor of each kind. -/
inductive Job where
  | challenge (posting : Posting)
  | resolve (resolution : Resolution)
  | unlock (posting : Posting)
  /-- withdraws the whole balance; the height is the head that led to it -/
  | withdraw (height : BlockNumber)
deriving DecidableEq

def Job.kind : Job → ActionKind
  | challenge _ => .challenge
  | resolve _ => .resolve
  | unlock _ => .unlock
  | withdraw _ => .withdraw

def ActionKind.purpose : ActionKind → String
  | challenge => "challenge da commitment"
  | resolve => "resolve da challenge"
  | unlock => "unlock bond"
  | withdraw => "withdraw bonds"

inductive Outcome where
  /-- the transactions have landed -/
  | submitted
  /-- there was nothing to do -/
  | skipped
deriving DecidableEq

inductive ExecutionQuery where
  | contract (request : Contract.Request)
  | submit (purpose : String) (candidates : List Candidate)
deriving DecidableEq

def ExecutionQuery.Answer : ExecutionQuery → Type
  | contract request => request.Reply
  | submit _ _ => Except Failure Unit

namespace Executor

abbrev Executing := Program ExecutionQuery ExecutionQuery.Answer

/-- A computation that stops at the first failure. -/
abbrev Attempt := ExceptT Failure Executing

def ask (request : Contract.Request) : Executing request.Reply :=
  Program.query (ExecutionQuery.contract request)

def hand (purpose : String) (candidates : List Candidate) : Executing (Except Failure Unit) :=
  Program.query (ExecutionQuery.submit purpose candidates)

/-- Asks the contract; a failure is told with what was attempted. -/
def require (context : String) (request : Contract.Request) : Attempt request.Answer := do
  match ← ask request with
  | .ok answer => pure answer
  | .error error => throw (error.failure.under context)

def submit (context : String) (kind : ActionKind) (candidates : List Candidate) : Attempt Outcome :=
  ExceptT.mk do
    match ← hand kind.purpose candidates with
    | .ok _ => pure (.ok .submitted)
    | .error failure => pure (.error (failure.under context))

/-- What is missing to a bond, if anything. -/
def missing (bondSize balance : Word) : Option Word :=
  if balance < bondSize then some (bondSize - balance) else none

def challenge (account : Address) (posting : Posting) : Attempt Outcome := do
  let bondSize : Word ← require "failed to read bond size" .bondSize
  let balance : Word ← require "failed to read bond balance" (.balance account)
  let deposits : List Candidate ← match missing bondSize balance with
    | some value => do
      let deposit : Candidate ← require "failed to create candidate deposit tx" (.deposit value)
      pure [deposit]
    | none => pure []
  let candidate : Candidate ← require "failed to create candidate challenge tx" (.challenge posting)
  submit "failed to challenge da commitment" .challenge (deposits ++ [candidate])

def resolve (resolution : Resolution) : Attempt Outcome := do
  let candidate : Candidate ← require "failed to create candidate resolve tx" (.resolve resolution)
  submit "failed to resolve da challenge" .resolve [candidate]

/-- A bond that is still locked is left for later. -/
def unlock (posting : Posting) : Attempt Outcome := do
  match ← ask (.unlockBond posting) with
  | .ok candidate => submit "failed to unlock bond" .unlock [candidate]
  | .error (.simulationFailed _ _) => pure .skipped
  | .error error => throw (error.failure.under "failed to create candidate unlock bond tx")

def withdraw (account : Address) : Attempt Outcome := do
  let balance : Word ← require "failed to read bond balance" (.balance account)
  if balance = 0 then pure .skipped
  else do
    let candidate : Candidate ← require "failed to create candidate withdraw tx" .withdraw
    submit "failed to withdraw bonds" .withdraw [candidate]

def execute (account : Address) (job : Job) : Executing (Except Failure Outcome) :=
  match job with
  | .challenge posting => (challenge account posting).run
  | .resolve resolution => (resolve resolution).run
  | .unlock posting => (unlock posting).run
  | .withdraw _ => (withdraw account).run

end Executor

end ChallengeGame
