/-!
# Pieces of a text

Addresses and domains are pieces with a mark between them.
-/

namespace ChallengeGame.Text

def isAscii (c : Char) : Bool := c.toNat < 0x80

/-- What stands before the first mark, and the pieces after it. -/
def split (mark : Char) : List Char → List Char × List (List Char)
  | [] => ([], [])
  | c :: rest =>
    let cut := split mark rest
    if c = mark then ([], cut.1 :: cut.2) else (c :: cut.1, cut.2)

/-- The pieces between the marks of a text, one more than there are marks. -/
def pieces (mark : Char) (text : List Char) : List (List Char) :=
  (split mark text).1 :: (split mark text).2

/-- What stands before the last mark and what stands after it, if there is a mark. -/
def splitLast? (mark : Char) (text : List Char) : Option (List Char × List Char) :=
  let after := text.reverse.takeWhile (· != mark)
  match text.reverse.dropWhile (· != mark) with
  | [] => none
  | _ :: before => some (before.reverse, after.reverse)

end ChallengeGame.Text
