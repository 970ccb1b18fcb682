import ChallengeGame.Contract

/-!
# A contract that follows a script

It keeps balances and records as told and notes the methods called and the resolutions
it made candidates for. The data of its candidates is the name of the method, followed
by the commitment if there is one.
-/

namespace ChallengeGame.Scripted

open ChallengeGame.Contract (Method Request)

structure Contract where
  address : Address
  bondSize : Word
  balances : List (Address × Word)
  records : List (Posting × Challenge)
  challengeWindow : UInt64
  resolveWindow : UInt64
  /-- the block that statuses are seen from -/
  latestBlock : BlockNumber
  /-- bonds cannot be unlocked -/
  bondLocked : Bool
  /-- nothing can be reached -/
  failing : Bool
  /-- the methods called since the last report, last first -/
  called : List Method
  /-- what was to be resolved since the last report, last first -/
  resolutions : List Resolution

namespace Contract

def new (address : Address) (challengeWindow resolveWindow : UInt64) : Contract :=
  ⟨address, 0, [], [], challengeWindow, resolveWindow, 0, false, false, [], []⟩

def setBalance (contract : Contract) (account : Address) (balance : Word) : Contract :=
  { contract with balances := (account, balance) :: contract.balances }

def insertRecord (contract : Contract) (record : Challenge) : Contract :=
  { contract with records := (record.posting, record) :: contract.records }

def candidate (contract : Contract) (method : Method) (posting? : Option Posting) (value : Word) :
    Candidate :=
  let data := Bytes.ofAscii method.name ++
    match posting? with
    | some posting => Bytes.ofAscii ":" ++ posting.commitment
    | none => []
  ⟨data, some contract.address, 0, value⟩

def missingRecord (posting : Posting) : Challenge :=
  ⟨posting, FixedBytes.zero 20, 0, 0, 0⟩

def method : Request → Method
  | .bondSize => .bondSize
  | .balance _ => .balances
  | .deposit _ => .deposit
  | .challenge _ => .challenge
  | .resolve _ => .resolve
  | .unlockBond _ => .unlockBond
  | .withdraw => .withdraw
  | .challengeWindow => .challengeWindow
  | .resolveWindow => .resolveWindow
  | .record _ => .getChallenge
  | .status _ => .getChallengeStatus
  | .validate _ => .validateCommitment

/-- The answer while the contract can be reached. -/
def answer (contract : Contract) : (request : Request) → request.Reply
  | .bondSize => .ok contract.bondSize
  | .balance account => .ok ((contract.balances.lookup account).getD 0)
  | .deposit value => .ok (contract.candidate .deposit none value)
  | .challenge posting => .ok (contract.candidate .challenge (some posting) 0)
  | .resolve resolution => .ok (contract.candidate .resolve (some resolution.posting) 0)
  | .unlockBond posting =>
    if contract.bondLocked then .error (.simulationFailed .unlockBond "execution reverted")
    else .ok (contract.candidate .unlockBond (some posting) 0)
  | .withdraw => .ok (contract.candidate .withdraw none 0)
  | .challengeWindow => .ok (BitVec.ofNat 256 contract.challengeWindow.toNat)
  | .resolveWindow => .ok (BitVec.ofNat 256 contract.resolveWindow.toNat)
  | .record posting => .ok ((contract.records.lookup posting).getD (missingRecord posting))
  | .status posting =>
    match contract.records.lookup posting with
    | some record => .ok (record.statusAt contract.latestBlock contract.resolveWindow)
    | none => .ok .uninitialized
  | .validate commitment =>
    match Commitment.decode commitment with
    | .ok _ => .ok true
    | .error _ => .ok false

def keep (request : Request) (contract : Contract) : Contract :=
  match request with
  | .resolve resolution => { contract with resolutions := resolution :: contract.resolutions }
  | _ => contract

def respond (request : Request) (contract : Contract) : request.Reply × Contract :=
  let noted := { contract with called := method request :: contract.called }
  if contract.failing then
    (.error (.call (method request) ⟨"mock contract is failing", []⟩), noted)
  else (contract.answer request, noted.keep request)

end Contract

end ChallengeGame.Scripted
