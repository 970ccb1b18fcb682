import ChallengeGame.Decimal
import ChallengeGame.Text

/-!
# Addresses of four bytes

A host whose last label is a number has to be an address. Its numbers are decimal, octal
behind a zero or hexadecimal behind `0x`; each stands for one byte, and the last one for
all bytes that are left.
-/

namespace ChallengeGame.Url.Ipv4

def digitValue? (c : Char) : Option Nat :=
  if '0' ≤ c ∧ c ≤ '9' then some (c.toNat - 48)
  else if 'a' ≤ c ∧ c ≤ 'f' then some (c.toNat - 87)
  else none

/-- The number written by digits below a base, zero if there are none. -/
def ofDigits (base : Nat) (text : List Char) : Option Nat :=
  text.foldlM (fun value c =>
    ((digitValue? c).filter (· < base)).map (base * value + ·)) 0

def number? : List Char → Option Nat
  | [] => none
  | '0' :: 'x' :: digits => ofDigits 16 digits
  | '0' :: digit :: digits => ofDigits 8 (digit :: digits)
  | digits => ofDigits 10 digits

/-- The labels without an empty one at the end, which stands for the root of all domains. -/
def dropRoot (labels : List (List Char)) : List (List Char) :=
  if labels.getLast? = some [] then labels.dropLast else labels

/-- Whether a host is taken for an address by its last label. Digits alone are enough,
also where they are no octal number. -/
def isMeant (labels : List (List Char)) : Bool :=
  (dropRoot labels).getLast?.any fun label =>
    (!label.isEmpty && label.all Char.isDigit) || (number? label).isSome

/-- Whether numbers fill at most four bytes, the last one all that the others leave. -/
def fits (numbers : List Nat) : Bool :=
  numbers.length ≤ 4 && numbers.dropLast.all (· < 256) &&
    numbers.getLast?.any (· < Nat.pow 256 (5 - numbers.length))

def isAddress (labels : List (List Char)) : Bool :=
  ((dropRoot labels).mapM number?).any fits

end ChallengeGame.Url.Ipv4
