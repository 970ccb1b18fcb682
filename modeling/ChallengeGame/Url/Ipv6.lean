import ChallengeGame.Bytes.Hex
import ChallengeGame.Decimal
import ChallengeGame.Text

/-!
# Addresses of eight words

The words stand between colons, in hexadecimal. One gap of two colons stands for at least
one word, and the last two words may be four decimal bytes.
-/

namespace ChallengeGame.Url.Ipv6

def isWord (text : List Char) : Bool :=
  !text.isEmpty && text.length ≤ 4 && text.all fun c => (Hex.digitValue? c).isSome

/-- A decimal byte without a zero in front. -/
def isByte (text : List Char) : Bool :=
  (Decimal.read text).any (· < 256) && (text.length ≤ 1 || text.head? != some '0')

def isQuad (text : List Char) : Bool :=
  let bytes := Text.pieces '.' text
  bytes.length == 4 && bytes.all isByte

/-- How many words a list of pieces stands for, if each is a word. The last one may be
four bytes where that is allowed. -/
def words? (mayEndInBytes : Bool) : List (List Char) → Option Nat
  | [] => some 0
  | [last] =>
    if isWord last then some 1
    else if mayEndInBytes && isQuad last then some 2
    else none
  | word :: rest => if isWord word then (words? mayEndInBytes rest).map (· + 1) else none

/-- The words of a text, of which there may be none at all. -/
def run? (mayEndInBytes : Bool) (text : List Char) : Option Nat :=
  if text.isEmpty then some 0 else words? mayEndInBytes (Text.pieces ':' text)

/-- What stands before the first gap and after it. -/
def cutAtGap? : List Char → Option (List Char × List Char)
  | ':' :: ':' :: rest => some ([], rest)
  | c :: rest => (cutAtGap? rest).map fun (before, after) => (c :: before, after)
  | [] => none

def isAddress (text : List Char) : Bool :=
  match cutAtGap? text with
  | none => run? true text == some 8
  | some (before, after) =>
    match run? false before, run? true after with
    | some first, some last => first + last ≤ 7
    | _, _ => false

end ChallengeGame.Url.Ipv6
