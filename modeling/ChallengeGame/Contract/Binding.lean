import ChallengeGame.Abi
import ChallengeGame.Contract
import ChallengeGame.Keccak
import ChallengeGame.Program

/-!
# Binding to a deployed contract

Version 1.0.0 of the contract, asked by read-only calls. Candidates carry the call data
of their method. Unlocking a bond is tried out first, with the very data that the
candidate carries.
-/

namespace ChallengeGame.Contract

namespace Method

def signature : Method → String
  | version => "version()"
  | challengeWindow => "challengeWindow()"
  | resolveWindow => "resolveWindow()"
  | bondSize => "bondSize()"
  | balances => "balances(address)"
  | deposit => "deposit()"
  | withdraw => "withdraw()"
  | getChallenge => "getChallenge(uint256,bytes)"
  | getChallengeStatus => "getChallengeStatus(uint256,bytes)"
  | validateCommitment => "validateCommitment(bytes)"
  | challenge => "challenge(uint256,bytes)"
  | resolve => "resolve(uint256,bytes,bytes)"
  | unlockBond => "unlockBond(uint256,bytes)"

/-- The first four bytes of call data, which name the method. -/
def selector (method : Method) : Bytes :=
  (Keccak.hash (Bytes.ofAscii method.signature)).bytes.take 4

end Method

def callData (method : Method) (arguments : List Abi.Argument) : Bytes :=
  method.selector ++ Abi.encode arguments

/-- A read-only call at the latest block, optionally in the name of an account. -/
structure Call where
  account? : Option Address
  target : Address
  data : Bytes
deriving DecidableEq

inductive CallError where
  | revert (reason : String)
  | transport (failure : Failure)
deriving DecidableEq

def CallError.message : CallError → String
  | revert reason => "execution reverted: " ++ reason
  | transport failure => failure.text

abbrev Call.Reply (_ : Call) : Type := Except CallError Bytes

/-- A computation that makes calls. -/
abbrev Calling := Program Call Call.Reply

structure Binding where
  address : Address
  account? : Option Address
deriving DecidableEq

def postingArguments (posting : Posting) : List Abi.Argument :=
  [.word posting.block, .bytes posting.commitment]

namespace Binding

def errorOf (method : Method) : CallError → ContractError
  | .revert reason => .simulationFailed method reason
  | .transport failure => .call method failure

def call (binding : Binding) (method : Method) (data : Bytes) : Calling (Except ContractError Bytes) := do
  let reply ← Program.query (⟨binding.account?, binding.address, data⟩ : Call)
  pure (reply.mapError (errorOf method))

/-- Calls a method and reads the values it returns. -/
def read (binding : Binding) (method : Method) (arguments : List Abi.Argument) (kinds : List Abi.Kind) :
    Calling (Except ContractError (Abi.Values kinds)) := do
  match ← binding.call method (callData method arguments) with
  | .error error => pure (.error error)
  | .ok output =>
    pure ((Abi.decode kinds output).mapError fun error => .decode method error.message)

def readWord (binding : Binding) (method : Method) (arguments : List Abi.Argument) :
    Calling (Except ContractError Word) := do
  pure ((← binding.read method arguments [.word]).map fun values => values.1)

def candidate (binding : Binding) (method : Method) (arguments : List Abi.Argument) (value : Word) :
    Candidate :=
  ⟨callData method arguments, some binding.address, 0, value⟩

def unlockBond (binding : Binding) (posting : Posting) : Calling (Except ContractError Candidate) := do
  let candidate := binding.candidate .unlockBond (postingArguments posting) 0
  pure ((← binding.call .unlockBond candidate.data).map fun _ => candidate)

def record (binding : Binding) (posting : Posting) : Calling (Except ContractError Challenge) := do
  let values ← binding.read .getChallenge (postingArguments posting) [.address, .word, .word, .word]
  pure (values.map fun (challenger, lockedBond, startBlock, resolvedBlock, _) =>
    { posting, challenger, lockedBond, startBlock, resolvedBlock })

def status (binding : Binding) (posting : Posting) : Calling (Except ContractError ChallengeStatus) := do
  match ← binding.read .getChallengeStatus (postingArguments posting) [.byte] with
  | .error error => pure (.error error)
  | .ok (code, _) =>
    match ChallengeStatus.ofCode? code.toNat with
    | some status => pure (.ok status)
    | none => pure (.error (.decode .getChallengeStatus (ChallengeStatus.unknownMessage code.toNat)))

/-- A commitment is well formed unless the contract reverts over it. -/
def validate (binding : Binding) (commitment : Bytes) : Calling (Except ContractError Bool) := do
  match ← binding.call .validateCommitment (callData .validateCommitment [.bytes commitment]) with
  | .ok _ => pure (.ok true)
  | .error (.simulationFailed _ _) => pure (.ok false)
  | .error error => pure (.error error)

def respond (binding : Binding) : (request : Request) → Calling request.Reply
  | .bondSize => binding.readWord .bondSize []
  | .balance account => binding.readWord .balances [.address account]
  | .deposit value => pure (.ok (binding.candidate .deposit [] value))
  | .challenge posting => pure (.ok (binding.candidate .challenge (postingArguments posting) 0))
  | .resolve resolution =>
    pure (.ok (binding.candidate .resolve
      (postingArguments resolution.posting ++ [.bytes resolution.input]) 0))
  | .unlockBond posting => binding.unlockBond posting
  | .withdraw => pure (.ok (binding.candidate .withdraw [] 0))
  | .challengeWindow => binding.readWord .challengeWindow []
  | .resolveWindow => binding.readWord .resolveWindow []
  | .record posting => binding.record posting
  | .status posting => binding.status posting
  | .validate commitment => binding.validate commitment

def connect (address : Address) (account? : Option Address) : Calling (Except ContractError Binding) := do
  let binding : Binding := ⟨address, account?⟩
  match ← binding.read .version [] [.text] with
  | .error error => pure (.error error)
  | .ok values =>
    let found : String := values.1
    if found = supportedVersion then pure (.ok binding)
    else pure (.error (.unsupportedVersion found))

end Binding

end ChallengeGame.Contract
