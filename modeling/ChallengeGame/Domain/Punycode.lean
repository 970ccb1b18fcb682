import ChallengeGame.Text

/-!
# Punycode

A label with characters beyond ASCII has a spelling in ASCII: its ASCII characters, a
hyphen, and a number for each other character, in the order of their code points. The
number is the distance to the character from the one before, counted over all places of
all code points between. Its digits go up to 35, the lowest first, and the last digit is
known by being below a threshold, which adapts to the numbers seen so far.
-/

namespace ChallengeGame.Domain.Punycode

def digitValue? (c : Char) : Option Nat :=
  if 'a' ≤ c ∧ c ≤ 'z' then some (c.toNat - 97)
  else if '0' ≤ c ∧ c ≤ '9' then some (c.toNat - 22)
  else none

/-- What digit number `position` has to stay below to be the last one. -/
def threshold (bias position : Nat) : Nat :=
  min 26 (max 1 (36 * (position + 1) - bias))

def divisions (delta : Nat) : Nat × Nat :=
  if 455 < delta then
    let (count, rest) := divisions (delta / 35)
    (count + 1, rest)
  else (0, delta)
termination_by delta

/-- The bias after a number, given how many characters the label has got. -/
def adapt (number length : Nat) (isFirst : Bool) : Nat :=
  let scaled := if isFirst then number / 700 else number / 2
  let (count, rest) := divisions (scaled + scaled / length)
  36 * count + 36 * rest / (rest + 38)

structure Decoder where
  chars : List Char
  /-- the code point of the character before -/
  point : Nat
  /-- the place behind the character before -/
  place : Nat
  bias : Nat
  /-- the digits of the current number: their sum, their count and the next one's weight -/
  number : Nat
  position : Nat
  weight : Nat

namespace Decoder

def start (chars : List Char) : Decoder :=
  { chars, point := 0x80, place := 0, bias := 72, number := 0, position := 0, weight := 1 }

/-- Puts in the character that a finished number stands for. -/
def insert? (decoder : Decoder) (number : Nat) : Option Decoder :=
  let length := decoder.chars.length + 1
  let point := decoder.point + (decoder.place + number) / length
  let place := (decoder.place + number) % length
  if h : point.isValidChar then
    some {
      chars := decoder.chars.take place ++ Char.ofNatAux point h :: decoder.chars.drop place
      point
      place := place + 1
      bias := adapt number length (decoder.place == 0)
      number := 0
      position := 0
      weight := 1 }
  else none

def step (decoder : Decoder) (c : Char) : Option Decoder :=
  (digitValue? c).bind fun digit =>
    let number := decoder.number + digit * decoder.weight
    let limit := threshold decoder.bias decoder.position
    if digit < limit then decoder.insert? number
    else some { decoder with
      number, position := decoder.position + 1, weight := decoder.weight * (36 - limit) }

end Decoder

/-- The label behind a spelling in lower case. Without a hyphen there are no ASCII
characters in it. -/
def decode? (text : List Char) : Option (List Char) :=
  let (ascii, digits) := match Text.splitLast? '-' text with
    | some (first :: rest, after) => (first :: rest, after)
    | _ => ([], text)
  match digits.foldlM Decoder.step (Decoder.start ascii) with
  | some decoder => if decoder.position = 0 then some decoder.chars else none
  | none => none

end ChallengeGame.Domain.Punycode
