import ChallengeGame.Keccak

/-!
# Hashing row by row

The lanes of the permutation as five rows of five. Each step of a round is written out for every
lane of a row, so that evaluating a hash looks up nothing. `hash_of_short` says that this is the hash
of any message that fits into one block.
-/

namespace ChallengeGame.Keccak

structure Row where
  a : UInt64
  b : UInt64
  c : UInt64
  d : UInt64
  e : UInt64

namespace Row

def of (state : Lanes) (y : Nat) : Row :=
  ⟨lane state 0 y, lane state 1 y, lane state 2 y, lane state 3 y, lane state 4 y⟩

def mix (row other : Row) : Row :=
  ⟨row.a ^^^ other.a, row.b ^^^ other.b, row.c ^^^ other.c, row.d ^^^ other.d, row.e ^^^ other.e⟩

/-- What the parities of the columns change in every row. -/
def spread (parity : Row) : Row :=
  ⟨parity.e ^^^ rotateLeft parity.b 1, parity.a ^^^ rotateLeft parity.c 1,
    parity.b ^^^ rotateLeft parity.d 1, parity.c ^^^ rotateLeft parity.e 1,
    parity.d ^^^ rotateLeft parity.a 1⟩

def mixWithin (row : Row) : Row :=
  ⟨row.a ^^^ (~~~row.b &&& row.c), row.b ^^^ (~~~row.c &&& row.d), row.c ^^^ (~~~row.d &&& row.e),
    row.d ^^^ (~~~row.e &&& row.a), row.e ^^^ (~~~row.a &&& row.b)⟩

end Row

structure Rows where
  first : Row
  second : Row
  third : Row
  fourth : Row
  fifth : Row

namespace Rows

def of (state : Lanes) : Rows :=
  ⟨.of state 0, .of state 1, .of state 2, .of state 3, .of state 4⟩

def mixColumns (rows : Rows) : Rows :=
  let change := (rows.first.mix rows.second |>.mix rows.third |>.mix rows.fourth
    |>.mix rows.fifth).spread
  ⟨rows.first.mix change, rows.second.mix change, rows.third.mix change, rows.fourth.mix change,
    rows.fifth.mix change⟩

def permuteLanes (rows : Rows) : Rows :=
  ⟨⟨rotateLeft rows.first.a 0, rotateLeft rows.second.b 44, rotateLeft rows.third.c 43,
      rotateLeft rows.fourth.d 21, rotateLeft rows.fifth.e 14⟩,
    ⟨rotateLeft rows.first.d 28, rotateLeft rows.second.e 20, rotateLeft rows.third.a 3,
      rotateLeft rows.fourth.b 45, rotateLeft rows.fifth.c 61⟩,
    ⟨rotateLeft rows.first.b 1, rotateLeft rows.second.c 6, rotateLeft rows.third.d 25,
      rotateLeft rows.fourth.e 8, rotateLeft rows.fifth.a 18⟩,
    ⟨rotateLeft rows.first.e 27, rotateLeft rows.second.a 36, rotateLeft rows.third.b 10,
      rotateLeft rows.fourth.c 15, rotateLeft rows.fifth.d 56⟩,
    ⟨rotateLeft rows.first.c 62, rotateLeft rows.second.d 55, rotateLeft rows.third.e 39,
      rotateLeft rows.fourth.a 41, rotateLeft rows.fifth.b 2⟩⟩

def mixRows (rows : Rows) : Rows :=
  ⟨rows.first.mixWithin, rows.second.mixWithin, rows.third.mixWithin, rows.fourth.mixWithin,
    rows.fifth.mixWithin⟩

def round (rows : Rows) (constant : UInt64) : Rows :=
  let mixed := rows.mixColumns.permuteLanes.mixRows
  { mixed with first := { mixed.first with a := mixed.first.a ^^^ constant } }

def permute (rows : Rows) : Rows := roundConstants.foldl round rows

/-- The lanes of a block before the first round, if no other block came before. -/
def ofBlock (block : Bytes) : Rows :=
  let lane (i : Nat) := laneOfBytes ((block.drop (8 * i)).take 8)
  ⟨⟨lane 0, lane 1, lane 2, lane 3, lane 4⟩, ⟨lane 5, lane 6, lane 7, lane 8, lane 9⟩,
    ⟨lane 10, lane 11, lane 12, lane 13, lane 14⟩, ⟨lane 15, lane 16, lane 17, lane 18, lane 19⟩,
    ⟨lane 20, lane 21, lane 22, lane 23, lane 24⟩⟩

end Rows

variable {state : Lanes} {message : Bytes}

/-! ## The permutation -/

theorem rows_mixColumns : Rows.of (mixColumns state) = (Rows.of state).mixColumns := by
  simp [Rows.of, Row.of, mixColumns, Rows.mixColumns, Row.mix, Row.spread, lane, UInt64.xor_assoc]

theorem rows_permuteLanes : Rows.of (permuteLanes state) = (Rows.of state).permuteLanes := by
  simp [Rows.of, Row.of, permuteLanes, Rows.permuteLanes, lane, rotations]

theorem rows_mixRows : Rows.of (mixRows state) = (Rows.of state).mixRows := by
  simp [Rows.of, Row.of, mixRows, Rows.mixRows, Row.mixWithin, lane]

theorem rows_round (constant : UInt64) :
    Rows.of (round state constant) = (Rows.of state).round constant := by
  rw [Rows.round, ← rows_mixColumns, ← rows_permuteLanes, ← rows_mixRows, round]
  -- only the first lane of the first row takes the constant
  generalize mixRows (permuteLanes (mixColumns state)) = mixed
  simp [Rows.of, Row.of, lane]

theorem rows_permute : Rows.of (permute state) = (Rows.of state).permute :=
  (List.foldl_hom Rows.of fun _ constant => (rows_round constant).symm).symm

/-! ## Messages of one block -/

theorem laneOfBytes_append_zeros (bytes : Bytes) (count : Nat) :
    laneOfBytes (bytes ++ List.replicate count 0) = laneOfBytes bytes := by
  -- later bytes are more significant, so zeros at the end are leading zeros
  have zeros : laneOfBytes (List.replicate count 0) = 0 := by
    induction count with
    | zero => rfl
    | succ count ih =>
      simp only [List.replicate_succ, laneOfBytes, List.foldr_cons] at ih ⊢
      rw [ih]
      rfl
  rw [laneOfBytes, List.foldr_append]
  exact congrArg (List.foldr _ · bytes) zeros

theorem laneOfBytes_block (block : Bytes) (i : Nat) :
    laneOfBytes ((List.range 8).map fun j => block.toArray.getD (8 * i + j) 0) =
      laneOfBytes ((block.drop (8 * i)).take 8) := by
  -- where the block ends, the lane goes on with zeros, and they change nothing
  have filled : (List.range 8).map (fun j => block.toArray.getD (8 * i + j) 0) =
      (block.drop (8 * i)).take 8 ++ List.replicate (8 - ((block.drop (8 * i)).take 8).length) 0 := by
    have enough : ((block.drop (8 * i)).take 8).length ≤ 8 := List.length_take_le ..
    refine List.ext_getElem ?_ fun j before _ => ?_
    · rw [List.length_map, List.length_range, List.length_append, List.length_replicate,
        Nat.add_sub_cancel' enough]
    -- byte by byte: inside the block it is the byte itself, behind it a zero
    simp only [List.length_map, List.length_range] at before
    simp only [List.getElem_map, List.getElem_range, List.getElem_append, List.length_take,
      List.length_drop, List.getElem_take, List.getElem_drop, List.getElem_replicate,
      Array.getD_eq_getD_getElem?, List.getElem?_toArray]
    split
    · rw [List.getElem?_eq_getElem (by omega), Option.getD_some]
    · rw [List.getElem?_eq_none (by omega), Option.getD_none]
  rw [filled, laneOfBytes_append_zeros]

theorem rows_absorb (block : Bytes) :
    Rows.of (absorb (Vector.replicate 25 0) block) = (Rows.ofBlock block).permute := by
  simp only [absorb, rows_permute, laneOfBytes_block]
  simp [Rows.of, Row.of, lane, Rows.ofBlock]

theorem length_pad (short : message.length < rate) : (pad message).length = rate := by
  have length : rate = 136 := rfl
  rw [pad]
  grind

theorem hash_of_short (short : message.length < rate) :
    (hash message).bytes =
      let row := (Rows.ofBlock (pad message)).permute.first
      [row.a, row.b, row.c, row.d].flatMap bytesOfLane := by
  -- padding fills exactly one block, so the state is absorbed into once
  have one : (pad message).length / rate = 1 := by rw [length_pad short]; rfl
  have whole : (pad message).take rate = pad message :=
    List.take_of_length_le (Nat.le_of_eq (length_pad short))
  rw [← rows_absorb]
  simp only [hash, one, absorbBlocks, whole]
  rfl

end ChallengeGame.Keccak
