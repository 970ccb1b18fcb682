import ChallengeGame.Bytes

/-!
# The Keccak-256 hash

The sponge over the 1600-bit permutation with a rate of 136 bytes and the padding
that starts with a single one bit. Lane `x + 5 * y` of the state stands at column
`x` and row `y`.
-/

namespace ChallengeGame.Keccak

abbrev Lanes := Vector UInt64 25

def roundConstants : List UInt64 :=
  [0x0000000000000001, 0x0000000000008082, 0x800000000000808A, 0x8000000080008000,
   0x000000000000808B, 0x0000000080000001, 0x8000000080008081, 0x8000000000008009,
   0x000000000000008A, 0x0000000000000088, 0x0000000080008009, 0x000000008000000A,
   0x000000008000808B, 0x800000000000008B, 0x8000000000008089, 0x8000000000008003,
   0x8000000000008002, 0x8000000000000080, 0x000000000000800A, 0x800000008000000A,
   0x8000000080008081, 0x8000000000008080, 0x0000000080000001, 0x8000000080008008]

def rotations : Lanes :=
  #v[0, 1, 62, 28, 27, 36, 44, 6, 55, 20, 3, 10, 43, 25, 39, 41, 45, 15, 21, 8, 18, 2, 61, 56, 14]

def rotateLeft (lane amount : UInt64) : UInt64 :=
  (lane <<< amount) ||| (lane >>> (64 - amount))

def lane (state : Lanes) (x y : Nat) : UInt64 :=
  state[x % 5 + 5 * (y % 5)]

def mixColumns (state : Lanes) : Lanes :=
  let parity : Vector UInt64 5 := Vector.ofFn fun x =>
    lane state x 0 ^^^ lane state x 1 ^^^ lane state x 2 ^^^ lane state x 3 ^^^ lane state x 4
  Vector.ofFn fun i =>
    state[i] ^^^ parity[(i.val + 4) % 5] ^^^ rotateLeft parity[(i.val + 1) % 5] 1

/-- Rotates every lane and moves it to its new place. -/
def permuteLanes (state : Lanes) : Lanes :=
  Vector.ofFn fun i =>
    let x := i.val % 5
    let y := i.val / 5
    rotateLeft (lane state (x + 3 * y) x) (lane rotations (x + 3 * y) x)

def mixRows (state : Lanes) : Lanes :=
  Vector.ofFn fun i =>
    let x := i.val % 5
    let y := i.val / 5
    lane state x y ^^^ (~~~(lane state (x + 1) y) &&& lane state (x + 2) y)

def round (state : Lanes) (constant : UInt64) : Lanes :=
  let mixed := mixRows (permuteLanes (mixColumns state))
  mixed.set 0 (mixed[0] ^^^ constant)

def permute (state : Lanes) : Lanes :=
  roundConstants.foldl round state

/-- Eight bytes as a lane, least significant byte first. -/
def laneOfBytes (bytes : Bytes) : UInt64 :=
  bytes.foldr (fun byte value => (value <<< 8) ||| byte.toUInt64) 0

def bytesOfLane (value : UInt64) : Bytes :=
  (List.range 8).map fun i => (value >>> (8 * i).toUInt64).toUInt8

def rate : Nat := 136

/-- The message followed by a one bit, zero bits and a last one bit, up to full blocks. -/
def pad (message : Bytes) : Bytes :=
  let missing := rate - message.length % rate
  if missing = 1 then message ++ [0x81]
  else message ++ (0x01 :: List.replicate (missing - 2) 0) ++ [0x80]

def absorb (state : Lanes) (block : Bytes) : Lanes :=
  let words := block.toArray
  permute (Vector.ofFn fun i =>
    state[i] ^^^ laneOfBytes ((List.range 8).map fun j => words.getD (8 * i.val + j) 0))

def absorbBlocks : Nat → Lanes → Bytes → Lanes
  | 0, state, _ => state
  | blocks + 1, state, bytes =>
    absorbBlocks blocks (absorb state (bytes.take rate)) (bytes.drop rate)

def hash (message : Bytes) : Hash :=
  let padded := pad message
  let state := absorbBlocks (padded.length / rate) (Vector.replicate 25 0) padded
  ⟨(List.range 4).flatMap fun i => bytesOfLane (lane state i 0), rfl⟩

end ChallengeGame.Keccak
