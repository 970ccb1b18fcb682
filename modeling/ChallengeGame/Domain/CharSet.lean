import ChallengeGame.Bytes.Hex
import ChallengeGame.Text

/-!
# Sets of characters

Standards list the characters with a property as ranges of code points. The tables here
are such lists as text: hexadecimal numbers, with a hyphen inside each range and blanks
between them. A range may run on over characters that no domain keeps, since nothing is
asked about them.
-/

namespace ChallengeGame.Domain

/-- Ranges of code points, both ends included. -/
abbrev CharSet := List (Nat × Nat)

namespace CharSet

def range? (word : List Char) : Option (Nat × Nat) :=
  match (Text.pieces '-' word).map Hex.readNumber with
  | [some point] => some (point, point)
  | [some first, some last] => some (first, last)
  | _ => none

def ofText (text : String) : CharSet :=
  (Text.pieces ' ' text.toList).filterMap range?

def ofLines (lines : List String) : CharSet := lines.flatMap ofText

def contains (set : CharSet) (c : Char) : Bool :=
  set.any fun range => range.1 ≤ c.toNat && c.toNat ≤ range.2

end CharSet

end ChallengeGame.Domain
