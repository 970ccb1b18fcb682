import ChallengeGame.Decimal
import ChallengeGame.Document

/-!
# TOML numbers and dates

Every reader takes a scalar off the front of a text and returns what is left. Whole
numbers are signed 64-bit. Other numbers and dates are checked and kept as written.
-/

namespace ChallengeGame.Toml

abbrev Reads (α : Type) := Option (α × List Char)

/-- Digits that go on after a first one, with single underscores between them. -/
def moreDigits (isDigit : Char → Bool) : List Char → List Char × List Char
  | '_' :: c :: rest =>
    if isDigit c then
      let more := moreDigits isDigit rest
      (c :: more.1, more.2)
    else ([], '_' :: c :: rest)
  | c :: rest =>
    if isDigit c then
      let more := moreDigits isDigit rest
      (c :: more.1, more.2)
    else ([], c :: rest)
  | [] => ([], [])

def digits? (isDigit : Char → Bool) : List Char → Reads (List Char)
  | c :: rest =>
    if isDigit c then
      let more := moreDigits isDigit rest
      some (c :: more.1, more.2)
    else none
  | [] => none

/-- A decimal whole part: a zero alone or digits that do not start with one. -/
def whole? : List Char → Reads (List Char)
  | '0' :: rest => some (['0'], rest)
  | text => digits? Char.isDigit text

/-- The sign, true for minus. -/
def sign : List Char → Bool × List Char
  | '-' :: rest => (true, rest)
  | '+' :: rest => (false, rest)
  | text => (false, text)

def inBase (base : Nat) (digits : List Char) : Nat :=
  digits.foldl (fun value c => base * value + (Hex.digitValue? c).getD 0) 0

def isHexDigit (c : Char) : Bool := (Hex.digitValue? c).isSome

def isOctalDigit (c : Char) : Bool := '0' ≤ c && c ≤ '7'

def isBinaryDigit (c : Char) : Bool := c == '0' || c == '1'

def signed64? (value : Int) : Option Document :=
  if -0x8000000000000000 ≤ value ∧ value < 0x8000000000000000 then some (.integer value) else none

def integer? (text : List Char) : Option (Document × List Char) := do
  match text with
  | '0' :: 'x' :: rest =>
    let (digits, rest) ← digits? isHexDigit rest
    some (← signed64? (inBase 16 digits), rest)
  | '0' :: 'o' :: rest =>
    let (digits, rest) ← digits? isOctalDigit rest
    some (← signed64? (inBase 8 digits), rest)
  | '0' :: 'b' :: rest =>
    let (digits, rest) ← digits? isBinaryDigit rest
    some (← signed64? (inBase 2 digits), rest)
  | _ =>
    let (negative, text) := sign text
    let (digits, rest) ← whole? text
    let value : Int := inBase 10 digits
    some (← signed64? (if negative then -value else value), rest)

/-! ## Other numbers -/

def exponent? (text : List Char) : Option (Int × List Char) := do
  let (negative, text) := sign text
  let (digits, rest) ← digits? Char.isDigit text
  let value : Int := inBase 10 digits
  some (if negative then -value else value, rest)

/-- Whether `mantissa * 10 ^ exponent` is beyond the finite double-precision numbers. -/
def isInfinite (mantissa : List Char) (exponent : Int) : Bool :=
  let value := inBase 10 mantissa
  let places := (Decimal.digits value).length + exponent
  if value = 0 then false
  else if 400 < places then true
  else if places < 0 then false
  else
    let limit := (1 <<< 1024) - (1 <<< 970)
    if 0 ≤ exponent then limit ≤ value * Nat.pow 10 exponent.toNat
    else limit * Nat.pow 10 (-exponent).toNat ≤ value

def fraction? : List Char → Reads (List Char)
  | '.' :: rest => digits? Char.isDigit rest
  | _ => none

def exponentPart? : List Char → Reads Int
  | 'e' :: rest => exponent? rest
  | 'E' :: rest => exponent? rest
  | _ => none

def special? (text : List Char) : Option (List Char) :=
  match (sign text).2 with
  | 'i' :: 'n' :: 'f' :: rest => some rest
  | 'n' :: 'a' :: 'n' :: rest => some rest
  | _ => none

/-- The text between a place and a later place in it. -/
def between (text rest : List Char) : String :=
  String.ofList (text.take (text.length - rest.length))

def float? (text : List Char) : Option (Document × List Char) := do
  match special? text with
  | some rest => some (.other (between text rest), rest)
  | none =>
    let (negative, unsigned) := sign text
    let (whole, rest) ← whole? unsigned
    let (mantissa, exponent, rest) ← match fraction? rest with
      | some (fraction, rest) =>
        let exponentAndRest := (exponentPart? rest).getD (0, rest)
        some (whole ++ fraction, exponentAndRest.1 - fraction.length, exponentAndRest.2)
      | none => (exponentPart? rest).map fun found => (whole, found.1, found.2)
    if !negative && isInfinite mantissa exponent then none
    else some (.other (between text rest), rest)

/-! ## Dates -/

/-- A number of exactly so many digits, within bounds. -/
def field? (places low high : Nat) (text : List Char) : Reads Nat :=
  let digits := text.take places
  let value := inBase 10 digits
  if digits.length = places && digits.all Char.isDigit && low ≤ value && value ≤ high then
    some (value, text.drop places)
  else none

def separator? (c : Char) : List Char → Option (List Char)
  | first :: rest => if first = c then some rest else none
  | [] => none

def daysInMonth (year month : Nat) : Nat :=
  if month = 2 then
    if year % 4 = 0 && (year % 100 ≠ 0 || year % 400 = 0) then 29 else 28
  else if month = 4 || month = 6 || month = 9 || month = 11 then 30
  else 31

def date? (text : List Char) : Option (List Char) := do
  let (year, rest) ← field? 4 0 9999 text
  let (month, rest) ← field? 2 1 12 (← separator? '-' rest)
  let (_, rest) ← field? 2 1 (daysInMonth year month) (← separator? '-' rest)
  some rest

def secondFraction (text : List Char) : List Char :=
  match text with
  | '.' :: c :: rest => if c.isDigit then rest.dropWhile Char.isDigit else text
  | _ => text

def time? (text : List Char) : Option (List Char) := do
  let (_, rest) ← field? 2 0 23 text
  let (_, rest) ← field? 2 0 59 (← separator? ':' rest)
  let (_, rest) ← field? 2 0 60 (← separator? ':' rest)
  some (secondFraction rest)

def offset (text : List Char) : List Char :=
  let shift (rest : List Char) : List Char :=
    ((field? 2 0 23 rest).bind fun hour =>
      (separator? ':' hour.2).bind fun rest =>
        (field? 2 0 59 rest).map (·.2)).getD text
  match text with
  | 'Z' :: rest => rest
  | 'z' :: rest => rest
  | '+' :: rest => shift rest
  | '-' :: rest => shift rest
  | _ => text

def timeOfDay (text : List Char) : List Char :=
  match text with
  | c :: rest =>
    if c = 'T' || c = 't' || c = ' ' then ((time? rest).map offset).getD text else text
  | [] => text

def dateTime? (text : List Char) : Reads Document :=
  match date? text with
  | some rest =>
    let rest := timeOfDay rest
    some (.other (between text rest), rest)
  | none => (time? text).map fun rest => (.other (between text rest), rest)

def scalar? (text : List Char) : Reads Document :=
  match text with
  | 't' :: 'r' :: 'u' :: 'e' :: rest => some (.boolean true, rest)
  | 'f' :: 'a' :: 'l' :: 's' :: 'e' :: rest => some (.boolean false, rest)
  | _ => dateTime? text <|> float? text <|> integer? text

end ChallengeGame.Toml
