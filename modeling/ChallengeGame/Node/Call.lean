import ChallengeGame.Contract.Binding
import ChallengeGame.Node

/-!
# Read-only calls through a node

A refusal stands for a revert if it has the code that tells so or a message that speaks
of one. Everything else that is no byte string is a failure of the transport.
-/

namespace ChallengeGame.Node

open Contract (Call CallError)

def callRequest (call : Call) : Request :=
  let sender := match call.account? with
    | some account => [("from", Document.bytes account.bytes)]
    | none => []
  ⟨"eth_call", [
    .record ([("type", .text "0x00")] ++ sender ++
      [("to", .bytes call.target.bytes), ("data", .bytes call.data)]),
    .text "latest"]⟩

/-- Whether one list of characters stands somewhere in another. -/
def contains (part : List Char) : List Char → Bool
  | [] => part.isEmpty
  | c :: rest => part.isPrefixOf (c :: rest) || contains part rest

def isRevert (code : Int) (message : String) : Bool :=
  code == 3 || contains "revert".toList message.toList

def callReply (reply : Reply) : Except CallError Bytes :=
  match reply.read Document.bytes? with
  | .ok output => .ok output
  | .error (.refused code message) =>
    if isRevert code message then .error (.revert message)
    else .error (.transport (Fault.refused code message).failure)
  | .error fault => .error (.transport fault.failure)

end ChallengeGame.Node
