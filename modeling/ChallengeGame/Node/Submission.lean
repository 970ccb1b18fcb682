import ChallengeGame.Challenge
import ChallengeGame.Failure
import ChallengeGame.Program

/-!
# Submitting transactions through a node

Candidates are sent one after the other, each only after the one before it has landed.
The node signs, and finds a gas limit where none is given.
-/

namespace ChallengeGame.Node

structure Outgoing where
  sender : Address
  to? : Option Address
  data : Bytes
  value : Word
  gasLimit? : Option UInt64
deriving DecidableEq

structure Receipt where
  status? : Option Nat
  block : Nat
deriving DecidableEq

/-- The account transactions are sent from, given the one that a client signs for. -/
def sendingAccount : Option Address → Except Failure Address
  | some sender => .ok sender
  | none => .error ⟨"middleware has no default sender, a signer is required", []⟩

/-- How the wait for a transaction ended. -/
inductive Confirmation where
  | landed (receipt : Receipt)
  /-- the node has forgotten the transaction -/
  | dropped
  | failed (failure : Failure)
deriving DecidableEq

inductive SubmissionQuery where
  | send (outgoing : Outgoing)
  | confirm (transaction : Hash)
deriving DecidableEq

def SubmissionQuery.Answer : SubmissionQuery → Type
  | send _ => Except Failure Hash
  | confirm _ => Confirmation

abbrev Submitting := Program SubmissionQuery SubmissionQuery.Answer

def outgoing (sender : Address) (candidate : Candidate) : Outgoing :=
  { sender
    to? := candidate.to?
    data := candidate.data
    value := candidate.value
    gasLimit? := if candidate.gasLimit = 0 then none else some candidate.gasLimit }

/-- What is wrong with a transaction after the wait for it. -/
def confirmationFault? (purpose : String) (transaction : Hash) : Confirmation → Option Failure
  | .failed failure =>
    some (failure.under
      ("failed to confirm " ++ purpose ++ " transaction " ++ Hex.encode transaction.bytes))
  | .dropped =>
    some ⟨purpose ++ " transaction " ++ Hex.encode transaction.bytes ++ " was dropped", []⟩
  | .landed receipt =>
    if receipt.status? = some 1 then none
    else some ⟨purpose ++ " transaction " ++ Hex.encode transaction.bytes ++ " reverted", []⟩

def submit (sender : Address) (purpose : String) : List Candidate → Submitting (Except Failure Unit)
  | [] => pure (.ok ())
  | candidate :: rest => do
    let sent ← Program.query (SubmissionQuery.send (outgoing sender candidate))
    match (sent : Except Failure Hash) with
    | .error failure =>
      pure (.error (failure.under ("failed to send " ++ purpose ++ " transaction")))
    | .ok transaction =>
      let confirmation ← Program.query (SubmissionQuery.confirm transaction)
      match confirmationFault? purpose transaction confirmation with
      | some failure => pure (.error failure)
      | none => submit sender purpose rest

/-! ## Waiting for a transaction -/

inductive LookUp where
  | unknown
  | pending
  | mined
  | failed
deriving DecidableEq

inductive Watch where
  /-- looking for the transaction, which may stay unknown so many times more -/
  | lookingUp (retries : Nat)
  | awaitingReceipt
  /-- waiting until enough blocks stand on the one of the receipt -/
  | buried (receipt : Receipt)
  | ended (confirmation : Confirmation)
deriving DecidableEq

namespace Watch

def start : Watch := lookingUp 3

def found (retries : Nat) : LookUp → Watch
  | .unknown => if retries = 0 then ended .dropped else lookingUp (retries - 1)
  | .pending => lookingUp retries
  | .failed => lookingUp retries
  | .mined => awaitingReceipt

def received (confirmations : Nat) : Option Receipt → Watch
  | none => awaitingReceipt
  | some receipt => if 1 < confirmations then buried receipt else ended (.landed receipt)

/-- After a look at the number of the newest block. -/
def headSeen (confirmations : Nat) (receipt : Receipt) : Except Failure Nat → Watch
  | .error failure => ended (.failed failure)
  | .ok head =>
    if receipt.block + confirmations < head + 1 then ended (.landed receipt) else buried receipt

end Watch

end ChallengeGame.Node
