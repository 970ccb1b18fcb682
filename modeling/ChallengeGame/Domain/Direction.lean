import ChallengeGame.Domain.Marks

/-!
# Writing direction

A label reads in one direction. In a domain that holds characters written from right to
left, a label has to begin and to end so that the reader can tell where it does, whatever
stands beside it. Each set here is asked only about characters that are in none of the
sets before it, and its ranges may run on over those.
-/

namespace ChallengeGame.Domain

inductive Direction where
  | leftToRight
  | rightToLeft
  | europeanDigit
  | arabicDigit
  | mark
  | neutral
deriving DecidableEq

namespace Direction

def rightToLeftSet : CharSet := CharSet.ofLines [
  "5be-5f4 608 60b 60d 61b-64a 66d-6d5 6e5-6e6 6ee-6ef 6fa-7f5 7fa-8c9 fbb2-fbd2 fd90-fdce fe73",
  "10800-1091b 10920-10b35 10b40-10d23 10d40-10d8f 10e80-10ff6 1e800-1ed3d"]

def arabicDigits : CharSet := CharSet.ofLines [
  "660-669 66b-66c 10d30-10d39 10e60-10e7e"]

def europeanDigits : CharSet := CharSet.ofLines [
  "6f0-6f9 102e1-102fb"]

def neutrals : CharSet := CharSet.ofLines [
  "a1-d7 f7 2b9-2ba 2c2-2cf 2d2-2ed 2ef-2ff 375 3f6 58a-58f 606-607 609-60a 60c 60e-60f 66a 6de",
  "6e9 7f6-7f9 9f2-9f3 9fb af1 bf3-bfa c78-c7e e3f f3a-f3d 1390-1399 1400 169b-169c 17db",
  "17f0-180a 1940-1945 19de-19ff 200c-214d 218a-2335 237b-2394 2396-2426 2440-26ab 26ad-27ff",
  "2900-2b95 2b97-2bff 2ce5-2cea 2cf9-2cff 2e00-3004 3008-3020 3030 3037 303d-303f 30a0 30fb",
  "31c0-31e3 4dc0-4dff a490-a4c6 a60d-a60f a673-a67f a700-a721 a788 a828-a82b a838-a839",
  "a874-a877 ab6a-ab6b fd3e-fd4f fdcf-fe46 10101 10140-1018c 10190-101a0 1091f 10b39-10b3f",
  "11052-11065 11660-1166c 11fd5-11ff1 16fe2 1d1e9-1d245 1d300-1d356 1e2ff 1eef0-1f12f",
  "1f16d-1f16f 1f1ad 1f260-1f6d7 1f6dc-1f776 1f77b-1f8b1 1f900-1fa53 1fa60-1fa88 1fa90-1fabd",
  "1fabf-1fac5 1face-1fadb 1fae0-1fae8 1faf0-1fbca"]

def ofChar (c : Char) : Direction :=
  if Text.isAscii c then
    if c.isAlpha then leftToRight else if c.isDigit then europeanDigit else neutral
  else if Marks.nonspacing.contains c then mark
  else if rightToLeftSet.contains c then rightToLeft
  else if arabicDigits.contains c then arabicDigit
  else if europeanDigits.contains c then europeanDigit
  else if neutrals.contains c then neutral
  else leftToRight

/-- Whether a character makes its domain one that is read in both directions. -/
def isMixing (c : Char) : Bool :=
  ofChar c = rightToLeft || ofChar c = arabicDigit

/-- Whether a label without marks at its end keeps to one direction. -/
def keeps : List Direction → Bool
  | [] => true
  | first :: rest =>
    let final := rest.getLastD first
    match first with
    | leftToRight =>
      (final = leftToRight || final = europeanDigit) &&
        rest.all fun d => d != rightToLeft && d != arabicDigit
    | rightToLeft =>
      (final = rightToLeft || final = europeanDigit || final = arabicDigit) &&
        rest.all (· != leftToRight) && !(rest.contains europeanDigit && rest.contains arabicDigit)
    | _ => false

def isLabel (label : List Char) : Bool :=
  keeps ((label.map ofChar).reverse.dropWhile (· = mark)).reverse

end Direction

end ChallengeGame.Domain
