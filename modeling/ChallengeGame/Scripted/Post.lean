import ChallengeGame.Executor
import ChallengeGame.Scripted.Connection
import ChallengeGame.Scripted.Executor

/-!
# A post of one executor

A post is a connection to the contract and an outbox for transactions. The outbox may be
gated and may be told to fail; a submission passes the gate before it fails.
-/

namespace ChallengeGame.Scripted

structure Outbox where
  gate : Gate
  /-- why submissions fail, if they do -/
  fault? : Option String
  /-- what was submitted since the last report, last first -/
  sent : List (String × List Candidate)

namespace Outbox

def new (gate : Gate) : Outbox := ⟨gate, none, []⟩

def submit? (purpose : String) (candidates : List Candidate) (outbox : Outbox) :
    Option (Except Failure Unit × Outbox) :=
  outbox.gate.pass?.map fun gate =>
    match outbox.fault? with
    | some reason => (.error ⟨purpose ++ ": " ++ reason, []⟩, { outbox with gate })
    | none => (.ok (), { outbox with gate, sent := (purpose, candidates) :: outbox.sent })

end Outbox

structure Post where
  connection : Connection
  outbox : Outbox

namespace Post

/-- The answer to an executor, unless the gate holds it up. -/
def respond? (query : ExecutionQuery) (post : Post) (caller : Caller) :
    Option (query.Answer × Post × Caller) :=
  match query with
  | .contract request =>
    let (reply, connection, caller) := post.connection.respond request caller
    some (reply, { post with connection }, caller)
  | .submit purpose candidates =>
    (post.outbox.submit? purpose candidates).map fun (result, outbox) =>
      (result, { post with outbox }, caller)

/-- Changes the scripted contract of a post. A bound contract cannot be changed. -/
def adjust (change : Contract → Contract) (post : Post) : Post :=
  match post.connection with
  | .scripted contract => { post with connection := .scripted (change contract) }
  | .bound _ => post

def contract? (post : Post) : Option Contract :=
  match post.connection with
  | .scripted contract => some contract
  | .bound _ => none

def reported (post : Post) : Post :=
  { post.adjust fun contract => { contract with called := [], resolutions := [] } with
    outbox := { post.outbox with sent := [] } }

end Post

end ChallengeGame.Scripted
