import ChallengeGame.Bytes.Hex
import ChallengeGame.Keccak

/-!
# Commitments

A commitment is a Keccak hash of the committed input or a payload that only its
backend understands. Its byte form starts with a type byte. Reading accepts exactly
what writing produces.
-/

namespace ChallengeGame

inductive CommitmentType where
  | keccak256
  | generic
deriving DecidableEq

/-- The backend of generic commitments. -/
inductive CommitmentKind where
  | undefined
  | eigenDA
deriving DecidableEq

namespace CommitmentType

def byte : CommitmentType → UInt8
  | .keccak256 => 0
  | .generic => 1

def name : CommitmentType → String
  | .keccak256 => "keccak256"
  | .generic => "generic"

end CommitmentType

namespace CommitmentKind

def name : CommitmentKind → String
  | .undefined => "undefined"
  | .eigenDA => "eigenda"

end CommitmentKind

inductive CommitmentError where
  | empty
  | unknownType (byte : UInt8)
  | invalidKeccakLength (length : Nat)
deriving DecidableEq

def CommitmentError.message : CommitmentError → String
  | .empty => "empty commitment"
  | .unknownType byte => "unknown commitment type byte " ++ Hex.encode [byte]
  | .invalidKeccakLength length =>
    "invalid keccak256 commitment length " ++ toString length ++ ", expected 32"

inductive Commitment where
  | keccak256 (hash : Hash)
  | generic (payload : Bytes)
deriving DecidableEq

namespace Commitment

def type : Commitment → CommitmentType
  | keccak256 _ => .keccak256
  | generic _ => .generic

def payload : Commitment → Bytes
  | keccak256 hash => hash.bytes
  | generic payload => payload

def encode (commitment : Commitment) : Bytes :=
  commitment.type.byte :: commitment.payload

def decode : Bytes → Except CommitmentError Commitment
  | [] => .error .empty
  | byte :: payload =>
    if byte = CommitmentType.keccak256.byte then
      if h : payload.length = 32 then .ok (keccak256 ⟨payload, h⟩)
      else .error (.invalidKeccakLength payload.length)
    else if byte = CommitmentType.generic.byte then .ok (generic payload)
    else .error (.unknownType byte)

@[simp] theorem decode_encode (commitment : Commitment) : decode commitment.encode = .ok commitment := by
  cases commitment with
  | keccak256 hash => simp [encode, decode, type, payload, CommitmentType.byte, hash.length_eq]
  | generic payload => simp [encode, decode, type, Commitment.payload, CommitmentType.byte]

theorem encode_injective {a b : Commitment} (h : a.encode = b.encode) : a = b := by
  have := congrArg decode h
  simpa using this

/-- The commitment to an input by its hash. -/
def ofInput (input : Bytes) : Commitment :=
  keccak256 (Keccak.hash input)

/-- Whether the input is the data behind the commitment. Generic commitments are only
checked by their backend and pass here. -/
def admits : Commitment → Bytes → Bool
  | keccak256 hash, input => hash == Keccak.hash input
  | generic _, _ => true

def describe (commitment : Commitment) : String :=
  Hex.encode commitment.encode

end Commitment

end ChallengeGame
