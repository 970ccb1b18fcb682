import ChallengeGame.Domain.Composition
import ChallengeGame.Domain.Direction
import ChallengeGame.Domain.Joining
import ChallengeGame.Domain.Mapping
import ChallengeGame.Domain.Punycode

/-!
# Domains

A domain is a row of labels with dots between them. Its characters are replaced by those
that stand for them and composed, a label that is spelled in ASCII is decoded, and what
comes of it has to be a row of labels that every reader reads the same way. Empty labels
and labels of any length are allowed, and so are hyphens anywhere.
-/

namespace ChallengeGame.Domain

/-- What a label that is spelled in ASCII begins with. -/
def spellingMark : List Char := "xn--".toList

def longestSpelling : Nat := 2000

def longestSpelled : Nat := 1000

/-- ASCII characters that would end the host or change its meaning. -/
def isReserved (c : Char) : Bool :=
  c.toNat ≤ 0x20 || c.toNat = 0x7F || "%#/:<>?@[\\]^|".toList.contains c

/-- Whether a decoded label is in the form that it would have been given. -/
def isSettled (label : List Char) : Bool :=
  label.all Mapping.isKept && Composition.compose label == label

/-- The label behind a text after the spelling mark. It has a character beyond ASCII, or
there would be no need of spelling it. -/
def decode? (text : List Char) : Option (List Char) :=
  if !text.all Text.isAscii || text.getLastD '-' = '-' || longestSpelling < text.length then none
  else (Punycode.decode? text).filter isSettled

def label? (text : List Char) : Option (List Char) :=
  if spellingMark.isPrefixOf text then decode? (text.drop spellingMark.length) else some text

def isLabel (label : List Char) : Bool :=
  !label.any isReserved && !(label.head?.any Marks.isMark) && Joining.isLabel label &&
    (label.all Text.isAscii || label.length ≤ longestSpelled)

def labels? (domain : List Char) : Option (List (List Char)) := do
  let replaced := (← domain.mapM Mapping.replacement?).flatten
  let labels ← (Text.pieces '.' (Composition.compose replaced)).mapM label?
  if labels.all isLabel &&
      (!labels.any (·.any Direction.isMixing) || labels.all Direction.isLabel) then
    some labels
  else none

end ChallengeGame.Domain
