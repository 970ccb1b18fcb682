import ChallengeGame.Script.Values
import ChallengeGame.Scripted.Connection

/-!
# Contracts in scripts

Calls to a contract and their answers, replies of a caller, and changes to a scripted
contract.
-/

namespace ChallengeGame.Script

open ChallengeGame.Contract (Call CallError Method Request Registry RegistryError Binding Pair)

def contractErrorOut (error : ContractError) : Document :=
  let kind := match error with
    | .simulationFailed _ _ => "SimulationFailed"
    | .unsupportedVersion _ => "UnsupportedVersion"
    | .decode _ _ => "Decode"
    | .encode _ _ => "Encode"
    | .call _ _ => "Call"
  failureOut kind error.failure

def asReply (document : Document) : Read (Except CallError Bytes) := do
  match present document "ok", present document "revert", present document "transport" with
  | some output, _, _ => .ok (.ok (← asBytes output))
  | _, some reason, _ => .ok (.error (.revert (← asText reason)))
  | _, _, some reason => .ok (.error (.transport ⟨← asText reason, []⟩))
  | _, _, _ => .error "expected a reply"

def asCaller (document : Document) : Read Scripted.Caller := do
  match ← get document "responses" with
  | .record fields =>
    let replies ← fields.mapM fun (name, reply) => do
      let method ← need "method" (Method.all.find? (·.name == name))
      .ok (method, ← asReply reply)
    .ok (Scripted.Caller.new replies)
  | _ => .error "expected responses"

def callOut (call : Call) : Document :=
  .list [orNull fixed call.account?, fixed call.target, hex call.data]

/-- The calls made since the last look, and the caller without them. -/
def takeCalls (caller : Scripted.Caller) : Document × Scripted.Caller :=
  (.list (caller.made.reverse.map callOut), { caller with made := [] })

def candidateOut (candidate : Candidate) : Document :=
  .record [
    ("data", hex candidate.data),
    ("to", orNull fixed candidate.to?),
    ("gas", number candidate.gasLimit.toNat),
    ("value", number candidate.value.toNat)]

def challengeOut (record : Challenge) : Document :=
  .record [
    ("block", number record.posting.block.toNat),
    ("commitment", hex record.posting.commitment),
    ("challenger", fixed record.challenger),
    ("locked_bond", number record.lockedBond.toNat),
    ("start_block", number record.startBlock.toNat),
    ("resolved_block", number record.resolvedBlock.toNat)]

def wordOut (word : Word) : Document := number word.toNat

def asRequest (call : Document) : Read Request := do
  match ← text call "m" with
  | "bond_size" => .ok .bondSize
  | "balance" => .ok (.balance (← address call "addr"))
  | "challenge" => .ok (.challenge (← posting call))
  | "deposit" => .ok (.deposit (← word call "value"))
  | "resolve" => .ok (.resolve ⟨← posting call, ← bytes call "blob"⟩)
  | "unlock_bond" => .ok (.unlockBond (← posting call))
  | "withdraw" => .ok .withdraw
  | "challenge_window" => .ok .challengeWindow
  | "resolve_window" => .ok .resolveWindow
  | "get_challenge" => .ok (.record (← posting call))
  | "get_challenge_status" => .ok (.status (← posting call))
  | "validate_commitment" => .ok (.validate (← bytes call "bytes"))
  | other => .error ("unknown call " ++ other)

def answerOut : (request : Request) → request.Answer → Document
  | .bondSize, (word : Word) => wordOut word
  | .balance _, (word : Word) => wordOut word
  | .deposit _, (candidate : Candidate) => candidateOut candidate
  | .challenge _, (candidate : Candidate) => candidateOut candidate
  | .resolve _, (candidate : Candidate) => candidateOut candidate
  | .unlockBond _, (candidate : Candidate) => candidateOut candidate
  | .withdraw, (candidate : Candidate) => candidateOut candidate
  | .challengeWindow, (word : Word) => wordOut word
  | .resolveWindow, (word : Word) => wordOut word
  | .record _, (record : Challenge) => challengeOut record
  | .status _, (status : ChallengeStatus) => .text status.name
  | .validate _, (accepted : Bool) => .boolean accepted

def replyOut (request : Request) : request.Reply → Document
  | .ok answer => answerOut request answer
  | .error error => contractErrorOut error

def registryErrorOut (error : RegistryError) : Document :=
  let kind := match error with
    | .missingKind => "MissingKind"
    | .unsupported _ => "Unsupported"
    | .unregistered _ _ => "Unregistered"
    | .contract _ _ => "Contract"
  failureOut kind error.failure

/-- What a step changes in a scripted contract, if it is about one. -/
def asContractChange (step : Document) : Read (Option (Scripted.Contract → Scripted.Contract)) := do
  match ← text step "s" with
  | "bond_size" =>
    let bondSize ← word step "value"
    .ok (some fun contract => { contract with bondSize })
  | "balance" =>
    let account ← address step "addr"
    let balance ← word step "value"
    .ok (some fun contract => contract.setBalance account balance)
  | "bond_locked" =>
    let bondLocked ← flag step "on"
    .ok (some fun contract => { contract with bondLocked })
  | "failing" =>
    let failing ← flag step "on"
    .ok (some fun contract => { contract with failing })
  | "latest_block" =>
    let latestBlock ← uint64 step "block"
    .ok (some fun contract => { contract with latestBlock })
  | "insert_challenge" =>
    let record : Challenge := {
      posting := ← posting step
      challenger := ← address step "challenger"
      lockedBond := ← word step "locked_bond"
      startBlock := ← word step "start"
      resolvedBlock := ← word step "resolved" }
    .ok (some fun contract => contract.insertRecord record)
  | _ => .ok none

def methodsOut (called : List Method) : Document :=
  .list (called.reverse.map fun method => .text method.name)

end ChallengeGame.Script
