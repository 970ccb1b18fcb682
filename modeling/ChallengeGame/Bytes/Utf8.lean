import ChallengeGame.Bytes

/-!
# Text in bytes

One octet machine decodes UTF-8. Where the bytes are malformed it reports one fault
for each longest piece that could still have begun a character. The strict reader
refuses a text with a fault, the lenient one writes the replacement character for it.
-/

namespace ChallengeGame.Utf8

/-- A character whose first octets have been read: the bits so far, the number of
octets owed, and the range of the next one. -/
structure Pending where
  value : Nat
  owed : Nat
  low : Nat
  high : Nat

inductive Lead where
  | character (c : Char)
  | pending (p : Pending)
  | malformed

def lead (byte : UInt8) : Lead :=
  let b := byte.toNat
  if b < 0x80 then .character (Char.ofNat b)
  else if 0xC2 ≤ b ∧ b ≤ 0xDF then .pending ⟨b - 0xC0, 1, 0x80, 0xBF⟩
  else if b = 0xE0 then .pending ⟨0, 2, 0xA0, 0xBF⟩
  else if b = 0xED then .pending ⟨0xD, 2, 0x80, 0x9F⟩
  else if 0xE1 ≤ b ∧ b ≤ 0xEF then .pending ⟨b - 0xE0, 2, 0x80, 0xBF⟩
  else if b = 0xF0 then .pending ⟨0, 3, 0x90, 0xBF⟩
  else if 0xF1 ≤ b ∧ b ≤ 0xF3 then .pending ⟨b - 0xF0, 3, 0x80, 0xBF⟩
  else if b = 0xF4 then .pending ⟨4, 3, 0x80, 0x8F⟩
  else .malformed

/-- The output of an octet between characters; `none` stands for a fault. -/
def start (byte : UInt8) : List (Option Char) × Option Pending :=
  match lead byte with
  | .character c => ([some c], none)
  | .pending p => ([], some p)
  | .malformed => ([none], none)

def step : Option Pending → UInt8 → List (Option Char) × Option Pending
  | none, byte => start byte
  | some p, byte =>
    if p.low ≤ byte.toNat ∧ byte.toNat ≤ p.high then
      let value := p.value * 64 + byte.toNat % 64
      if p.owed ≤ 1 then ([some (Char.ofNat value)], none)
      else ([], some ⟨value, p.owed - 1, 0x80, 0xBF⟩)
    else
      let next := start byte
      (none :: next.1, next.2)

def decodeFrom : Option Pending → Bytes → List (Option Char)
  | none, [] => []
  | some _, [] => [none]
  | state, byte :: rest =>
    let next := step state byte
    next.1 ++ decodeFrom next.2 rest

def decode? (bytes : Bytes) : Option (List Char) :=
  (decodeFrom none bytes).mapM id

def decodeLossy (bytes : Bytes) : List Char :=
  (decodeFrom none bytes).map (·.getD '\uFFFD')

end ChallengeGame.Utf8
