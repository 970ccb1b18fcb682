import ChallengeGame.Bytes

/-!
# Hexadecimal notation

Byte strings are written with two lower-case digits a byte behind `0x`, quantities
with as few digits as possible. Reading accepts digits of both cases; which marker
may stand in front of them is decided by each kind of value. Values of a bounded size
are measured by the length of their text, in which blanks may take the place of digits.
-/

namespace ChallengeGame.Hex

def digit (value : Nat) : Char :=
  if value < 10 then Char.ofNat (48 + value) else Char.ofNat (87 + value)

def digitValue? (c : Char) : Option Nat :=
  if '0' ≤ c ∧ c ≤ '9' then some (c.toNat - 48)
  else if 'a' ≤ c ∧ c ≤ 'f' then some (c.toNat - 87)
  else if 'A' ≤ c ∧ c ≤ 'F' then some (c.toNat - 55)
  else none

theorem digitValue?_digit {value : Nat} (h : value < 16) : digitValue? (digit value) = some value := by
  have key : ∀ v : Fin 16, digitValue? (digit v) = some v.val := by decide
  exact key ⟨value, h⟩

def ofByte (byte : UInt8) : List Char :=
  [digit (byte.toNat / 16), digit (byte.toNat % 16)]

def digits (bytes : Bytes) : List Char :=
  bytes.flatMap ofByte

/-- A byte string in the form every value of it is written. -/
def encode (bytes : Bytes) : String :=
  "0x" ++ String.ofList (digits bytes)

/-- Reads pairs of digits; an odd number of them is refused. -/
def readDigits : List Char → Option Bytes
  | [] => some []
  | [_] => none
  | high :: low :: rest =>
    match digitValue? high, digitValue? low, readDigits rest with
    | some h, some l, some bytes => some (UInt8.ofNat (16 * h + l) :: bytes)
    | _, _, _ => none

theorem readDigits_digits (bytes : Bytes) : readDigits (digits bytes) = some bytes := by
  induction bytes with
  | nil => rfl
  | cons byte rest ih =>
    have hi : byte.toNat / 16 < 16 := by have := byte.toNat_lt; omega
    have lo : byte.toNat % 16 < 16 := by omega
    have sum : 16 * (byte.toNat / 16) + byte.toNat % 16 = byte.toNat := by omega
    have step : digits (byte :: rest) =
        digit (byte.toNat / 16) :: digit (byte.toNat % 16) :: digits rest := rfl
    rw [step, readDigits, digitValue?_digit hi, digitValue?_digit lo, ih]
    simp [sum]

def dropMarker : List Char → List Char
  | '0' :: 'x' :: rest => rest
  | text => text

/-- Like `dropMarker`, for values whose marker may also be `0X`. -/
def dropAnyMarker : List Char → List Char
  | '0' :: 'x' :: rest => rest
  | '0' :: 'X' :: rest => rest
  | text => text

def readBytes (text : String) : Option Bytes :=
  readDigits (dropAnyMarker text.toList)

/-! ## Texts with blanks in them -/

def isBlank (c : Char) : Bool :=
  c = ' ' || c = '\r' || c = '\n' || c = '\t'

/-- Pairs of digits with blanks anywhere between the digits. `high` is the first digit of a
pair whose second is still to come; if none comes, the pair is dropped. -/
def readSpaced (high : Option Nat) : List Char → Option Bytes
  | [] => some []
  | c :: rest =>
    if isBlank c then readSpaced high rest
    else
      match digitValue? c, high with
      | none, _ => none
      | some value, none => readSpaced (some value) rest
      | some value, some h => (readSpaced none rest).map (UInt8.ofNat (16 * h + value) :: ·)

theorem isBlank_digit {value : Nat} (h : value < 16) : isBlank (digit value) = false := by
  have key : ∀ v : Fin 16, isBlank (digit v) = false := by decide
  exact key ⟨value, h⟩

theorem readSpaced_digits (bytes : Bytes) : readSpaced none (digits bytes) = some bytes := by
  induction bytes with
  | nil => rfl
  | cons byte rest ih =>
    have hi : byte.toNat / 16 < 16 := by have := byte.toNat_lt; omega
    have lo : byte.toNat % 16 < 16 := by omega
    have sum : 16 * (byte.toNat / 16) + byte.toNat % 16 = byte.toNat := by omega
    have step : digits (byte :: rest) =
        digit (byte.toNat / 16) :: digit (byte.toNat % 16) :: digits rest := rfl
    simp [step, readSpaced, isBlank_digit hi, digitValue?_digit hi, isBlank_digit lo,
      digitValue?_digit lo, ih, sum]

/-- A value of fixed size from a text of twice as many characters. Bytes for which blanks
left no digits are zero, and stand at the end. -/
def readFixed (size : Nat) (text : String) : Option (FixedBytes size) :=
  let body := dropMarker text.toList
  if body.length = 2 * size then (readSpaced none body).bind (FixedBytes.ofFirst? size) else none

def numberDigits (value : Nat) : List Char :=
  if value < 16 then [digit value]
  else numberDigits (value / 16) ++ [digit (value % 16)]
termination_by value

/-- A quantity in the form every quantity is written. -/
def quantity (value : Nat) : String :=
  "0x" ++ String.ofList (numberDigits value)

def readNumber (text : List Char) : Option Nat :=
  text.foldlM (fun value c => (digitValue? c).map (16 * value + ·)) 0

/-- A quantity in one to `limit` characters. A text of odd length starts with half a byte. -/
def readQuantity (limit : Nat) (text : String) : Option Nat :=
  let body := dropMarker text.toList
  if body.isEmpty || body.length > limit then none
  else (readSpaced (if body.length % 2 = 0 then none else some 0) body).map Bytes.toNat

def readWord (text : String) : Option Word :=
  (readQuantity 64 text).map (BitVec.ofNat 256)

end ChallengeGame.Hex
