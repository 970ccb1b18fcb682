import ChallengeGame.Bytes.Utf8

/-!
# Call data

Arguments are laid out in a head of one word each and a tail. A word stands in the
head; a byte string stands in the tail, after its length and with zeros up to a whole
number of words, and the head holds its distance from the start. Reading is wider
than writing: it follows the distances wherever they lead, and neither padding nor
what comes after the values is looked at.
-/

namespace ChallengeGame.Abi

inductive Argument where
  | word (value : Word)
  | bytes (value : Bytes)
deriving DecidableEq

namespace Argument

/-- An address is a word with zeros in front. -/
def address (value : Address) : Argument := word (Word.ofBytes value.bytes)

def tail : Argument → Bytes
  | word _ => []
  | bytes value =>
    Word.toBytes (BitVec.ofNat 256 value.length) ++ value ++
      List.replicate ((32 - value.length % 32) % 32) 0

/-- The word in the head, given where the tail of the argument starts. -/
def head (start : Nat) : Argument → Bytes
  | word value => value.toBytes
  | bytes _ => Word.toBytes (BitVec.ofNat 256 start)

end Argument

def heads : (start : Nat) → List Argument → Bytes
  | _, [] => []
  | start, argument :: rest => argument.head start ++ heads (start + argument.tail.length) rest

def tails (arguments : List Argument) : Bytes := arguments.flatMap Argument.tail

def encode (arguments : List Argument) : Bytes :=
  heads (32 * arguments.length) arguments ++ tails arguments

/-! ## Reading -/

/-- The types of values that calls return. -/
inductive Kind where
  | word
  | address
  | byte
  | text
deriving DecidableEq

def Kind.Value : Kind → Type
  | word => Word
  | address => Address
  | byte => UInt8
  | text => String

def Values : List Kind → Type
  | [] => Unit
  | kind :: rest => kind.Value × Values rest

inductive DecodeError where
  /-- nothing was returned where values were expected -/
  | nothing
  | invalid
deriving DecidableEq

def DecodeError.message : DecodeError → String
  | nothing => "Invalid name: please ensure the contract and method you're calling exist! failed to " ++
      "decode empty bytes. if you're using jsonrpc this is likely due to jsonrpc returning `0x` in " ++
      "case contract or method don't exist"
  | invalid => "Invalid data"

def slice? (output : Bytes) (start length : Nat) : Option Bytes :=
  if start + length ≤ output.length then some ((output.drop start).take length) else none

/-- A word that stands for a distance or a length, which has 32 bits at most. -/
def distance? (output : Bytes) (start : Nat) : Option Nat :=
  (slice? output start 32).bind fun bytes =>
    if bytes.toNat < UInt32.size then some bytes.toNat else none

def addressOfWord (word : Bytes) : Address := FixedBytes.ofNat 20 word.toNat

/-- The value whose head is at a place. -/
def value? (output : Bytes) (start : Nat) : (kind : Kind) → Option kind.Value
  | .word => (slice? output start 32).map Word.ofBytes
  | .address => (slice? output start 32).map addressOfWord
  | .byte => (slice? output start 32).map fun bytes => UInt8.ofNat bytes.toNat
  | .text => do
    let place ← distance? output start
    let length ← distance? output place
    let bytes ← slice? output (place + 32) length
    some (String.ofList (Utf8.decodeLossy bytes))

def valuesFrom? (output : Bytes) : (start : Nat) → (kinds : List Kind) → Option (Values kinds)
  | _, [] => some ()
  | start, kind :: rest => do
    let first ← value? output start kind
    let others ← valuesFrom? output (start + 32) rest
    some (first, others)

def decode (kinds : List Kind) (output : Bytes) : Except DecodeError (Values kinds) :=
  if output.isEmpty && !kinds.isEmpty then .error .nothing
  else match valuesFrom? output 0 kinds with
    | some values => .ok values
    | none => .error .invalid

end ChallengeGame.Abi
