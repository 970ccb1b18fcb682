import ChallengeGame.Abi
import Mathlib.Data.List.Forall2
import Mathlib.Data.List.Induction

/-!
# Reading arguments strictly

The strict reader takes an argument block only as it has to be written: a head for every parameter,
then the tails in the same order without a gap, the distance of each tail where it stands, zeros as
padding, and nothing behind. So it reads arguments from the block that is written for them, and from
no other block (`strict?_eq_some_iff`).
-/

namespace ChallengeGame

namespace Bytes

theorem toNat_lt (bytes : Bytes) : toNat bytes < Nat.pow 256 bytes.length := by
  induction bytes using List.reverseRecOn with
  | nil => simp [toNat]
  | append_singleton bytes byte ih =>
    have next : Nat.pow 256 (bytes.length + 1) = Nat.pow 256 bytes.length * 256 := rfl
    have small := byte.toNat_lt
    rw [toNat_append_singleton, List.length_append, List.length_singleton, next]
    omega

theorem ofNat_toNat (bytes : Bytes) : ofNat bytes.length (toNat bytes) = bytes := by
  induction bytes using List.reverseRecOn with
  | nil => rfl
  | append_singleton bytes byte ih =>
    have small := byte.toNat_lt
    have high : (toNat bytes * 256 + byte.toNat) / 256 = toNat bytes := by omega
    have low : UInt8.ofNat (toNat bytes * 256 + byte.toNat) = byte := by
      apply UInt8.toNat.inj
      rw [UInt8.toNat_ofNat']
      omega
    rw [toNat_append_singleton, List.length_append, List.length_singleton, ofNat, high, low, ih]

end Bytes

namespace Word

theorem toBytes_ofBytes {bytes : Bytes} (whole : bytes.length = 32) :
    (ofBytes bytes).toBytes = bytes := by
  have fits : bytes.toNat < Nat.pow 2 256 := by
    have bound := bytes.toNat_lt
    rw [whole] at bound
    exact bound
  have same : (BitVec.ofNat 256 bytes.toNat).toNat = bytes.toNat := Nat.mod_eq_of_lt fits
  rw [ofBytes, toBytes, same, ← whole, Bytes.ofNat_toNat]

end Word

namespace Abi

/-! ## The strict reader -/

inductive Parameter where
  | uint256
  | address
  | bytes
deriving DecidableEq

namespace Parameter

def name : Parameter → String
  | uint256 => "uint256"
  | address => "address"
  | bytes => "bytes"

/-- An address takes up the last 20 bytes of its word. -/
def Admits : Parameter → Argument → Prop
  | uint256, .word _ => True
  | address, .word value => value.toNat < Nat.pow 2 160
  | bytes, .bytes _ => True
  | _, _ => False

end Parameter

def word? (block : Bytes) : Option (Word × Bytes) :=
  if 32 ≤ block.length then some (Word.ofBytes (block.take 32), block.drop 32) else none

def padding (length : Nat) : Nat := (32 - length % 32) % 32

def tail? (block : Bytes) : Option (Bytes × Bytes) := do
  let (length, rest) ← word? block
  let value := rest.take length.toNat
  let rest := rest.drop length.toNat
  let zeros := List.replicate (padding length.toNat) 0
  if value.length = length.toNat ∧ zeros <+: rest then
    some (value, rest.drop (padding length.toNat))
  else none

/-- Reads heads and tails side by side. The next tail has to start at `place`. -/
def arguments? : (place : Nat) → List Parameter → (heads tails : Bytes) → Option (List Argument)
  | _, [], heads, tails => if heads.isEmpty && tails.isEmpty then some [] else none
  | place, parameter :: rest, heads, tails => do
    let (head, heads) ← word? heads
    match parameter with
    | .uint256 => do
      let others ← arguments? place rest heads tails
      some (.word head :: others)
    | .address => do
      let others ← arguments? place rest heads tails
      if head.toNat < Nat.pow 2 160 then some (.word head :: others) else none
    | .bytes => do
      let (value, more) ← tail? tails
      let others ← arguments? (place + (tails.length - more.length)) rest heads more
      if head.toNat = place then some (.bytes value :: others) else none

def strict? (parameters : List Parameter) (block : Bytes) : Option (List Argument) :=
  let heads := 32 * parameters.length
  arguments? heads parameters (block.take heads) (block.drop heads)

/-! ## Words and tails -/

variable {block rest : Bytes} {word : Word} {value : Bytes}

theorem word?_eq_some_iff : word? block = some (word, rest) ↔ word.toBytes ++ rest = block := by
  unfold word?
  constructor
  · intro read
    split at read
    · rename_i enough
      obtain ⟨rfl, rfl⟩ := Prod.mk.inj (Option.some.inj read)
      rw [Word.toBytes_ofBytes (List.length_take_of_le enough)]
      exact List.take_append_drop 32 block
    · cases read
  · rintro rfl
    have length := Word.length_toBytes word
    simp [List.take_left' length, List.drop_left' length]

theorem tail_bytes (value : Bytes) :
    (Argument.bytes value).tail =
      Word.toBytes (BitVec.ofNat 256 value.length) ++
        (value ++ List.replicate (padding value.length) 0) :=
  List.append_assoc ..

theorem tail?_eq_some_iff :
    tail? block = some (value, rest) ↔
      value.length < Word.size ∧ (Argument.bytes value).tail ++ rest = block := by
  simp only [tail?, Option.bind_eq_bind, Option.bind_eq_some_iff, Prod.exists, word?_eq_some_iff,
    tail_bytes]
  constructor
  · rintro ⟨length, others, rfl, read⟩
    split at read
    · rename_i fits
      obtain ⟨enough, zeros⟩ := fits
      obtain ⟨rfl, rfl⟩ := Prod.mk.inj (Option.some.inj read)
      -- the value is as long as the word before it says
      obtain ⟨after, split⟩ := zeros
      rw [enough, ← split, List.drop_left' List.length_replicate, BitVec.ofNat_toNat,
        BitVec.setWidth_eq]
      refine ⟨length.toNat_lt_size, ?_⟩
      conv_rhs => rw [← List.take_append_drop length.toNat others, ← split]
      simp only [List.append_assoc]
    · cases read
  · rintro ⟨small, rfl⟩
    have length : (BitVec.ofNat 256 value.length).toNat = value.length := Nat.mod_eq_of_lt small
    refine ⟨BitVec.ofNat 256 value.length, value ++ (List.replicate (padding value.length) 0 ++ rest),
      by simp only [List.append_assoc], ?_⟩
    rw [length, List.take_left' rfl, List.drop_left' rfl, if_pos ⟨rfl, List.prefix_append ..⟩,
      List.drop_left' List.length_replicate]

/-! ## Blocks -/

variable {parameters : List Parameter} {arguments : List Argument} {place : Nat}
  {heads tails : Bytes}

theorem arguments?_sound
    (read : arguments? place parameters heads tails = some arguments) :
    List.Forall₂ Parameter.Admits parameters arguments ∧ Abi.heads place arguments = heads ∧
      Abi.tails arguments = tails := by
  induction parameters generalizing place heads tails arguments with
  | nil =>
    simp only [arguments?] at read
    split at read
    · rename_i done
      simp only [Bool.and_eq_true, List.isEmpty_iff] at done
      cases read
      exact ⟨.nil, done.1.symm, done.2.symm⟩
    · cases read
  | cons parameter rest ih =>
    simp only [arguments?, Option.bind_eq_bind, Option.bind_eq_some_iff, Prod.exists,
      word?_eq_some_iff] at read
    -- the head is one word, whatever the parameter
    obtain ⟨head, others, rfl, read⟩ := read
    cases parameter with
    | uint256 =>
      simp only [Option.bind_eq_some_iff, Option.some.injEq] at read
      obtain ⟨arguments, read, rfl⟩ := read
      obtain ⟨admitted, rfl, rfl⟩ := ih read
      exact ⟨.cons trivial admitted, rfl, rfl⟩
    | address =>
      simp only [Option.bind_eq_some_iff, Option.ite_none_right_eq_some, Option.some.injEq] at read
      obtain ⟨arguments, read, small, rfl⟩ := read
      obtain ⟨admitted, rfl, rfl⟩ := ih read
      exact ⟨.cons small admitted, rfl, rfl⟩
    | bytes =>
      simp only [Option.bind_eq_some_iff, Prod.exists, tail?_eq_some_iff,
        Option.ite_none_right_eq_some, Option.some.injEq] at read
      obtain ⟨value, more, ⟨-, rfl⟩, arguments, read, rfl, rfl⟩ := read
      obtain ⟨admitted, rfl, rfl⟩ := ih read
      refine ⟨.cons trivial admitted, ?_, rfl⟩
      simp only [Abi.heads, Argument.head, BitVec.ofNat_toNat, BitVec.setWidth_eq,
        List.length_append, Nat.add_sub_cancel]

theorem arguments?_complete (admitted : List.Forall₂ Parameter.Admits parameters arguments)
    (fits : place + (Abi.tails arguments).length < Word.size) :
    arguments? place parameters (Abi.heads place arguments) (Abi.tails arguments) =
      some arguments := by
  induction admitted generalizing place with
  | nil => rfl
  | @cons parameter argument parameters arguments admits _ ih =>
    -- whatever the argument, its head is a word and the others go on behind its tail
    have tails : Abi.tails (argument :: arguments) = argument.tail ++ Abi.tails arguments := rfl
    rw [tails, List.length_append] at fits
    have others : arguments? (place + argument.tail.length) parameters
        (Abi.heads (place + argument.tail.length) arguments) (Abi.tails arguments) =
          some arguments := ih (by omega)
    cases argument with
    | word word =>
      have head : word? (Abi.heads place (.word word :: arguments)) =
          some (word, Abi.heads place arguments) := word?_eq_some_iff.2 rfl
      simp only [arguments?, head, tails, Argument.tail, List.nil_append, List.length_nil,
        Nat.add_zero] at others ⊢
      cases parameter with
      | uint256 => simp [others]
      | address => simpa [others, Parameter.Admits] using admits
      | bytes => cases admits
    | bytes value =>
      have length : value.length < Word.size := by
        simp only [Argument.tail, List.length_append] at fits
        omega
      have head : word? (Abi.heads place (.bytes value :: arguments)) =
          some (BitVec.ofNat 256 place, Abi.heads (place + (Argument.bytes value).tail.length)
            arguments) := word?_eq_some_iff.2 rfl
      have near : place < Word.size := by omega
      have start : (BitVec.ofNat 256 place).toNat = place := Nat.mod_eq_of_lt near
      have tail : tail? ((Argument.bytes value).tail ++ Abi.tails arguments) =
          some (value, Abi.tails arguments) := tail?_eq_some_iff.2 ⟨length, rfl⟩
      cases parameter with
      | bytes => simp [arguments?, head, tails, tail, others, start]
      | uint256 | address => cases admits

theorem length_head (place : Nat) (argument : Argument) : (argument.head place).length = 32 := by
  cases argument <;> exact Word.length_toBytes _

theorem length_heads (place : Nat) (arguments : List Argument) :
    (Abi.heads place arguments).length = 32 * arguments.length := by
  induction arguments generalizing place with
  | nil => rfl
  | cons argument rest ih =>
    rw [Abi.heads, List.length_append, length_head, ih, List.length_cons]
    omega

theorem strict?_eq_some_iff (admitted : List.Forall₂ Parameter.Admits parameters arguments)
    (fits : (encode arguments).length < Word.size) :
    strict? parameters block = some arguments ↔ encode arguments = block := by
  have count : 32 * parameters.length = 32 * arguments.length := by rw [admitted.length_eq]
  have heads := length_heads (32 * arguments.length) arguments
  simp only [strict?, count]
  -- heads end where the tails begin, after one word for each argument
  constructor
  · intro read
    obtain ⟨-, head, tail⟩ := arguments?_sound read
    rw [encode, head, tail, List.take_append_drop]
  · rintro rfl
    rw [encode, List.length_append, heads] at fits
    rw [encode, List.take_left' heads, List.drop_left' heads]
    exact arguments?_complete admitted fits

/-! ## Lengths -/

theorem dvd_length_padded (value : Bytes) :
    32 ∣ (value ++ List.replicate (padding value.length) 0).length := by
  rw [List.length_append, List.length_replicate, padding]
  omega

theorem dvd_length_tails (arguments : List Argument) : 32 ∣ (Abi.tails arguments).length := by
  induction arguments with
  | nil => exact ⟨0, rfl⟩
  | cons argument rest ih =>
    have own : 32 ∣ argument.tail.length := by
      cases argument with
      | word _ => exact ⟨0, rfl⟩
      | bytes value =>
        rw [tail_bytes, List.length_append, Word.length_toBytes]
        exact Nat.dvd_add ⟨1, rfl⟩ (dvd_length_padded value)
    rw [Abi.tails, List.flatMap_cons, List.length_append]
    exact Nat.dvd_add own ih

theorem dvd_length_encode (arguments : List Argument) : 32 ∣ (encode arguments).length := by
  rw [encode, List.length_append, length_heads]
  exact Nat.dvd_add ⟨_, rfl⟩ (dvd_length_tails arguments)

/-- Every byte string stands at a word boundary, with zeros behind it up to the next one. -/
theorem encode_padded (mem : .bytes value ∈ arguments) :
    ∃ before after, encode arguments =
      before ++ (value ++ List.replicate (padding value.length) 0) ++ after ∧
        32 ∣ before.length := by
  obtain ⟨earlier, later, split⟩ := List.mem_iff_append.1 mem
  -- heads, the tails before it and its length stand before the value: all of them whole words
  have tails : Abi.tails arguments =
      Abi.tails earlier ++ ((Argument.bytes value).tail ++ Abi.tails later) := by
    rw [split, Abi.tails, List.flatMap_append]
    rfl
  refine ⟨Abi.heads (32 * arguments.length) arguments ++ Abi.tails earlier ++
    Word.toBytes (BitVec.ofNat 256 value.length), Abi.tails later, ?_, ?_⟩
  · rw [encode, tails, tail_bytes]
    simp only [List.append_assoc]
  · rw [List.length_append, List.length_append, length_heads, Word.length_toBytes]
    exact Nat.dvd_add (Nat.dvd_add ⟨_, rfl⟩ (dvd_length_tails earlier)) ⟨1, rfl⟩

/-- Lengths of 64 bits leave room for every distance in a word. -/
theorem length_encode_lt (few : arguments.length ≤ 3)
    (small : ∀ value, .bytes value ∈ arguments → value.length < UInt64.size) :
    (encode arguments).length < Word.size := by
  -- a tail is a length, a value and less than a word of zeros
  have tails : (Abi.tails arguments).length ≤ arguments.length * (UInt64.size + 63) := by
    clear few
    induction arguments with
    | nil => exact Nat.zero_le _
    | cons argument rest ih =>
      have own : argument.tail.length ≤ UInt64.size + 63 := by
        cases argument with
        | word _ => exact Nat.zero_le _
        | bytes value =>
          have bound := small value List.mem_cons_self
          rw [tail_bytes, List.length_append, List.length_append, Word.length_toBytes,
            List.length_replicate, padding]
          omega
      have others := ih fun value mem => small value (List.mem_cons_of_mem _ mem)
      rw [Abi.tails, List.flatMap_cons, List.length_append, List.length_cons, Nat.succ_mul]
      rw [Abi.tails] at others
      omega
  have total : arguments.length * (UInt64.size + 63) ≤ 3 * (UInt64.size + 63) :=
    Nat.mul_le_mul_right _ few
  have words : 3 * (UInt64.size + 63) + 96 < Word.size := by decide
  rw [encode, List.length_append, length_heads]
  omega

end Abi

end ChallengeGame
