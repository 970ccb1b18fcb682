import ChallengeGame.Decimal

/-!
# Whole numbers with 53 significant bits

A number is rounded to 53 significant bits, a tie to the even neighbour, and written
as the multiple of the largest power of ten that still reads back as the same rounded
number. Numbers below 2^53 are written as they are.
-/

namespace ChallengeGame.Decimal

/-- The number `mantissa * 2 ^ exponent` with a mantissa below 2^53. -/
structure Rounded where
  mantissa : Nat
  exponent : Nat

namespace Rounded

/-- The least mantissa of a number that was rounded. -/
def leastMantissa : Nat := 1 <<< 52

def unit (exponent : Nat) : Nat := 1 <<< exponent

def value (rounded : Rounded) : Nat := rounded.mantissa * unit rounded.exponent

def nearest (number : Nat) : Rounded :=
  let exponent := number.log2 + 1 - 53
  let unit := unit exponent
  let low := number / unit
  let rest := number % unit
  let up := unit < 2 * rest || (unit == 2 * rest && low % 2 == 1)
  let mantissa := if up then low + 1 else low
  if mantissa = 2 * leastMantissa then ⟨leastMantissa, exponent + 1⟩ else ⟨mantissa, exponent⟩

/-- Four times the distance to the half-way points below and above. Below a power of
two the neighbour is nearer. -/
def margins (rounded : Rounded) : Nat × Nat :=
  let unit := unit rounded.exponent
  (if rounded.mantissa = leastMantissa && 0 < rounded.exponent then unit else 2 * unit, 2 * unit)

def readsBack (rounded : Rounded) (number : Nat) : Bool :=
  if rounded.exponent = 0 then number = rounded.value
  else
    let (below, above) := rounded.margins
    let even := rounded.mantissa % 2 == 0
    let distance := 4 * (max number rounded.value - min number rounded.value)
    let margin := if number < rounded.value then below else above
    distance < margin || (even && distance == margin)

/-- The nearer of the two multiples of a step around the value that read back. -/
def onGrid? (rounded : Rounded) (step : Nat) : Option Nat :=
  let low := rounded.value / step * step
  let high := low + step
  match rounded.readsBack low, rounded.readsBack high with
  | true, true => some (if high - rounded.value < rounded.value - low then high else low)
  | true, false => some low
  | false, true => some high
  | false, false => none

def shortest (rounded : Rounded) : Nat :=
  let places := (digits rounded.value).length
  (((List.range places).map fun used => Nat.pow 10 (places - 1 - used)).findSome? rounded.onGrid?).getD
    rounded.value

end Rounded

/-- The digits of a number as a metric shows them. -/
def shortest (number : Nat) : String :=
  String.ofList (digits (Rounded.nearest number).shortest)

end ChallengeGame.Decimal
