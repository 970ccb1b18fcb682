import ChallengeGame.Block
import ChallengeGame.Commitment

/-!
# Challenges

The contract keys a challenge by its posting: the block a commitment was posted in
and the bytes of the commitment. Records are never deleted; their status is derived
for a reference block and changes as the chain grows.
-/

namespace ChallengeGame

structure Posting where
  block : Word
  commitment : Bytes
deriving DecidableEq

namespace Posting

def of (block : BlockNumber) (commitment : Commitment) : Posting :=
  ⟨BitVec.ofNat 256 block.toNat, commitment.encode⟩

theorem of_injective {block block' : BlockNumber} {commitment commitment' : Commitment} :
    of block commitment = of block' commitment' ↔ block = block' ∧ commitment = commitment' := by
  constructor
  · intro h
    injection h with blocks bytes
    have toNat := congrArg BitVec.toNat blocks
    have bound := block.toNat_lt
    have bound' := block'.toNat_lt
    simp only [BitVec.toNat_ofNat] at toNat
    rw [Nat.mod_eq_of_lt (by omega), Nat.mod_eq_of_lt (by omega)] at toNat
    exact ⟨UInt64.toNat_inj.1 toNat, Commitment.encode_injective bytes⟩
  · rintro ⟨rfl, rfl⟩
    rfl

def describe (posting : Posting) : String :=
  "block=" ++ toString posting.block.toNat ++ " commitment=" ++ Hex.encode posting.commitment

end Posting

inductive ChallengeStatus where
  | uninitialized
  | active
  | resolved
  | expired
deriving DecidableEq

namespace ChallengeStatus

def name : ChallengeStatus → String
  | uninitialized => "uninitialized"
  | active => "active"
  | resolved => "resolved"
  | expired => "expired"

def ofCode? : Nat → Option ChallengeStatus
  | 0 => some uninitialized
  | 1 => some active
  | 2 => some resolved
  | 3 => some expired
  | _ => none

def unknownMessage (code : Nat) : String :=
  "unknown challenge status " ++ toString code

end ChallengeStatus

structure Challenge where
  posting : Posting
  challenger : Address
  lockedBond : Word
  startBlock : Word
  resolvedBlock : Word
deriving DecidableEq

/-- The status of the record as seen at `reference`. A start block of zero stands for
no challenge, a resolved block of zero for an unresolved one. -/
def Challenge.statusAt (record : Challenge) (reference : BlockNumber) (resolveWindow : UInt64) :
    ChallengeStatus :=
  if record.startBlock = 0 then .uninitialized
  else if record.resolvedBlock ≠ 0 then .resolved
  else if reference.toNat ≤
      (record.startBlock.saturatingAdd (BitVec.ofNat 256 resolveWindow.toNat)).toNat then .active
  else .expired

structure Resolution where
  posting : Posting
  input : Bytes
deriving DecidableEq

def Resolution.describe (resolution : Resolution) : String :=
  resolution.posting.describe ++ " blob_len=" ++ toString resolution.input.length

inductive Action where
  | challenge (posting : Posting)
  | resolve (resolution : Resolution)
deriving DecidableEq

def Action.posting : Action → Posting
  | challenge posting => posting
  | resolve resolution => resolution.posting

inductive ActionKind where
  | challenge
  | resolve
  | unlock
  | withdraw
deriving DecidableEq

namespace ActionKind

def name : ActionKind → String
  | challenge => "challenge"
  | resolve => "resolve"
  | unlock => "unlock"
  | withdraw => "withdraw"

def all : List ActionKind := [challenge, resolve, unlock, withdraw]

end ActionKind

/-- A transaction ready to be signed. No destination stands for a contract creation,
a gas limit of zero leaves the estimate to the sender. -/
structure Candidate where
  data : Bytes
  to? : Option Address
  gasLimit : UInt64
  value : Word
deriving DecidableEq

end ChallengeGame
