import ChallengeGame.Contract.Binding
import ChallengeGame.Contract.Registry
import ChallengeGame.Scripted.Contract

/-!
# Connections to contracts in a rehearsal

A contract is either scripted itself or bound through a caller that answers each method
with a set reply. The caller notes every call.
-/

namespace ChallengeGame.Scripted

open ChallengeGame.Contract (Binding Call CallError Calling Method Request RegistryError Registry)

structure Caller where
  replies : List (Method × Except CallError Bytes)
  /-- the calls since the last report, last first -/
  made : List Call

namespace Caller

def new (replies : List (Method × Except CallError Bytes)) : Caller := ⟨replies, []⟩

def reply (caller : Caller) (data : Bytes) : Except CallError Bytes :=
  match caller.replies.find? fun entry => entry.1.selector == data.take 4 with
  | some entry => entry.2
  | none => .error (.transport ⟨"no response", []⟩)

def respond (call : Call) (caller : Caller) : call.Reply × Caller :=
  (caller.reply call.data, { caller with made := call :: caller.made })

def run {α : Type} (calling : Calling α) (caller : Caller) : α × Caller :=
  Program.run respond calling caller

end Caller

inductive Connection where
  | scripted (contract : Scripted.Contract)
  | bound (binding : Binding)

namespace Connection

def respond (request : Request) (connection : Connection) (caller : Caller) :
    request.Reply × Connection × Caller :=
  match connection with
  | scripted contract =>
    let (reply, contract) := contract.respond request
    (reply, scripted contract, caller)
  | bound binding =>
    let (reply, caller) := caller.run (binding.respond request)
    (reply, bound binding, caller)

end Connection

/-- How an entry of a registry binds a contract. -/
inductive Binder where
  | window (challengeWindow : UInt64)
  /-- a contract that is there already, whatever the address -/
  | existing (contract : Scripted.Contract)
  | failing (version : String)
  | deployed (account? : Option Address)

namespace Binder

def connect (address : Address) (binder : Binder) (caller : Caller) :
    Except ContractError Connection × Caller :=
  match binder with
  | window challengeWindow => (.ok (.scripted (Scripted.Contract.new address challengeWindow 0)), caller)
  | existing contract => (.ok (.scripted contract), caller)
  | failing version => (.error (.unsupportedVersion version), caller)
  | deployed account? =>
    let (binding, caller) := caller.run (Binding.connect address account?)
    (binding.map .bound, caller)

end Binder

def connect (registry : Registry Binder) (pair : ChallengeGame.Contract.Pair) (address : Address)
    (caller : Caller) : Except RegistryError Connection × Caller :=
  (registry.connect pair address).run (fun query => query.binder.connect query.address) caller

end ChallengeGame.Scripted
