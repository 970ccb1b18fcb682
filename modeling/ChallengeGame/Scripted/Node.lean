import ChallengeGame.Node.Submission

/-!
# A node that follows a script

The script of a submission says how it is answered and what is found when its transaction
is waited for. Each kind of answer waits in one queue for all submissions: the next one is
taken whichever transaction it was written for, and the last one repeats.
-/

namespace ChallengeGame.Scripted

open ChallengeGame.Node (Outgoing Receipt Confirmation SubmissionQuery LookUp Watch)

/-- The next item of a queue whose last item repeats. -/
def takeRepeating {α : Type} : List α → Option α × List α
  | [] => (none, [])
  | [last] => (some last, [last])
  | first :: rest => (some first, rest)

structure Acceptance where
  hash : Hash
  lookUps : List LookUp
  receipts : List (Option Receipt)

inductive Submission where
  | refused (failure : Failure)
  | accepted (acceptance : Acceptance)

namespace Submission

def answer : Submission → Except Failure Hash
  | refused failure => .error failure
  | accepted acceptance => .ok acceptance.hash

def lookUps : Submission → List LookUp
  | refused _ => []
  | accepted acceptance => acceptance.lookUps

def receipts : Submission → List (Option Receipt)
  | refused _ => []
  | accepted acceptance => acceptance.receipts

end Submission

/-- How many requests of each kind were made. -/
structure NodeUse where
  estimates : Nat
  lookUps : Nat
  receipts : Nat
  heads : Nat

structure Node where
  confirmations : Nat
  estimate : UInt64
  answers : List (Except Failure Hash)
  lookUps : List LookUp
  receipts : List (Option Receipt)
  /-- numbers of the newest block, or failures -/
  heads : List (Except Failure Nat)
  /-- everything submitted, last first, with the gas limit it got -/
  sent : List (Outgoing × UInt64)
  use : NodeUse

namespace Node

def ofScript (confirmations : Nat) (estimate : UInt64) (submissions : List Submission)
    (heads : List (Except Failure Nat)) : Node :=
  { confirmations, estimate, heads
    answers := submissions.map Submission.answer
    lookUps := submissions.flatMap Submission.lookUps
    receipts := submissions.flatMap Submission.receipts
    sent := []
    use := ⟨0, 0, 0, 0⟩ }

def send (outgoing : Outgoing) (node : Node) : Except Failure Hash × Node :=
  let (answer, answers) := takeRepeating node.answers
  let estimates := node.use.estimates + if outgoing.gasLimit?.isNone then 1 else 0
  (answer.getD (.error ⟨"no submission expected", []⟩),
    { node with
      answers
      sent := (outgoing, outgoing.gasLimit?.getD node.estimate) :: node.sent
      use := { node.use with estimates } })

/-- One look of the wait for a transaction. -/
def look (node : Node) : Watch → Watch × Node
  | .lookingUp retries =>
    let (found, lookUps) := takeRepeating node.lookUps
    (Watch.found retries (found.getD .unknown),
      { node with lookUps, use := { node.use with lookUps := node.use.lookUps + 1 } })
  | .awaitingReceipt =>
    let (receipt, receipts) := takeRepeating node.receipts
    (Watch.received node.confirmations (receipt.getD none),
      { node with receipts, use := { node.use with receipts := node.use.receipts + 1 } })
  | .buried receipt =>
    let (head, heads) := takeRepeating node.heads
    (Watch.headSeen node.confirmations receipt (head.getD (.error ⟨"no head expected", []⟩)),
      { node with heads, use := { node.use with heads := node.use.heads + 1 } })
  | .ended confirmation => (.ended confirmation, node)

/-- Looks until the wait is over. A script that never ends it counts as a failure once
the fuel is used up. -/
def watch : (fuel : Nat) → Watch → Node → Confirmation × Node
  | _, .ended confirmation, node => (confirmation, node)
  | 0, _, node => (.failed ⟨"the wait never ends", []⟩, node)
  | fuel + 1, state, node =>
    let (state, node) := look node state
    watch fuel state node

def confirm (node : Node) : Confirmation × Node :=
  watch (node.lookUps.length + node.receipts.length + node.heads.length + 8) Watch.start node

def respond : (query : SubmissionQuery) → Node → query.Answer × Node
  | .send outgoing, node => node.send outgoing
  | .confirm _, node => node.confirm

end Node

end ChallengeGame.Scripted
