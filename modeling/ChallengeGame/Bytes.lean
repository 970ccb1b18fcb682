/-!
# Byte strings and words

Byte strings are lists, so their laws are the laws of lists. Addresses and hashes
carry their length in the type. Quantities on the challenge contract are 256-bit
words, written as 32 bytes with the most significant byte first.
-/

namespace ChallengeGame

abbrev Bytes := List UInt8

namespace Bytes

/-- The number whose big-endian digits in base 256 are the given bytes. -/
def toNat (bytes : Bytes) : Nat :=
  bytes.foldl (fun value byte => value * 256 + byte.toNat) 0

/-- The lowest `size` bytes of a number, most significant first. -/
def ofNat : (size : Nat) → Nat → Bytes
  | 0, _ => []
  | size + 1, value => ofNat size (value / 256) ++ [UInt8.ofNat value]

@[simp] theorem length_ofNat (size value : Nat) : (ofNat size value).length = size := by
  induction size generalizing value with
  | zero => rfl
  | succ size ih => simp [ofNat, ih]

theorem toNat_append_singleton (bytes : Bytes) (byte : UInt8) :
    toNat (bytes ++ [byte]) = toNat bytes * 256 + byte.toNat := by
  simp [toNat, List.foldl_append]

theorem toNat_ofNat (size value : Nat) : toNat (ofNat size value) = value % Nat.pow 256 size := by
  induction size generalizing value with
  | zero => simp [ofNat, toNat, Nat.mod_one]
  | succ size ih =>
    have split : value % Nat.pow 256 (size + 1) =
        value % 256 + 256 * (value / 256 % Nat.pow 256 size) := by
      rw [show Nat.pow 256 (size + 1) = 256 * Nat.pow 256 size from Nat.mul_comm _ _]
      exact Nat.mod_mul
    rw [ofNat, toNat_append_singleton, ih, UInt8.toNat_ofNat', split]
    omega

/-- The characters of an ASCII text as bytes. -/
def ofAscii (text : String) : Bytes :=
  text.toList.map fun c => UInt8.ofNat c.toNat

/-- Strings of bytes are ordered like words in a dictionary. -/
def lt : Bytes → Bytes → Bool
  | _, [] => false
  | [], _ :: _ => true
  | a :: as, b :: bs => a < b || (a == b && lt as bs)

end Bytes

structure FixedBytes (size : Nat) where
  bytes : Bytes
  length_eq : bytes.length = size
deriving DecidableEq

abbrev Address := FixedBytes 20
abbrev Hash := FixedBytes 32

namespace FixedBytes

@[ext] theorem ext {size : Nat} {a b : FixedBytes size} (h : a.bytes = b.bytes) : a = b := by
  cases a; cases b; cases h; rfl

def ofBytes? (size : Nat) (bytes : Bytes) : Option (FixedBytes size) :=
  if h : bytes.length = size then some ⟨bytes, h⟩ else none

@[simp] theorem ofBytes?_bytes {size : Nat} (value : FixedBytes size) :
    ofBytes? size value.bytes = some value := by
  simp [ofBytes?, value.length_eq]

/-- A value that starts with the given bytes and ends in zeros. -/
def ofFirst? (size : Nat) (bytes : Bytes) : Option (FixedBytes size) :=
  ofBytes? size (bytes ++ List.replicate (size - bytes.length) 0)

@[simp] theorem ofFirst?_bytes {size : Nat} (value : FixedBytes size) :
    ofFirst? size value.bytes = some value := by
  simp [ofFirst?, value.length_eq]

/-- The same byte all over. -/
def splat (size : Nat) (byte : UInt8) : FixedBytes size :=
  ⟨List.replicate size byte, List.length_replicate⟩

def ofNat (size value : Nat) : FixedBytes size :=
  ⟨Bytes.ofNat size value, Bytes.length_ofNat size value⟩

def zero (size : Nat) : FixedBytes size := splat size 0

def isZero {size : Nat} (value : FixedBytes size) : Bool := value.bytes.all (· == 0)

end FixedBytes

abbrev Word := BitVec 256

namespace Word

def toBytes (word : Word) : Bytes := Bytes.ofNat 32 word.toNat

def ofBytes (bytes : Bytes) : Word := BitVec.ofNat 256 bytes.toNat

@[simp] theorem length_toBytes (word : Word) : word.toBytes.length = 32 :=
  Bytes.length_ofNat 32 word.toNat

theorem toNat_toBytes (word : Word) : word.toBytes.toNat = word.toNat := by
  have h : word.toNat < Nat.pow 256 32 := word.isLt
  rw [toBytes, Bytes.toNat_ofNat, Nat.mod_eq_of_lt h]

@[simp] theorem ofBytes_toBytes (word : Word) : ofBytes word.toBytes = word := by
  simp [ofBytes, toNat_toBytes]

def size : Nat := Nat.pow 2 256

theorem toNat_lt_size (word : Word) : word.toNat < size := word.isLt

/-- Addition that stops at the largest word. -/
def saturatingAdd (a b : Word) : Word :=
  if a.toNat + b.toNat < size then a + b else BitVec.allOnes 256

theorem toNat_saturatingAdd (a b : Word) :
    (saturatingAdd a b).toNat = min (a.toNat + b.toNat) (size - 1) := by
  unfold saturatingAdd
  split
  · rename_i h
    have sum : (a + b).toNat = (a.toNat + b.toNat) % size := BitVec.toNat_add a b
    rw [sum, Nat.mod_eq_of_lt h]
    omega
  · have last : (BitVec.allOnes 256).toNat = size - 1 := BitVec.toNat_allOnes
    rw [last]
    omega

end Word

end ChallengeGame
