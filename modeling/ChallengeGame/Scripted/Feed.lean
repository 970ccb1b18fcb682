import ChallengeGame.Node.Blocks

/-!
# A feed of finalized heads that follows a script

Each question takes the next reading and gets it after a while. The last reading repeats.
-/

namespace ChallengeGame.Scripted

structure Reading where
  /-- the milliseconds until the answer comes -/
  delay : Nat
  answer : Node.HeadReading

structure Feed where
  readings : List Reading
  /-- the number of questions so far -/
  asked : Nat

namespace Feed

def exhausted : Reading := ⟨0, .failed ⟨"no finalized ref", []⟩⟩

def ask (feed : Feed) : Reading × Feed :=
  match feed.readings with
  | [] => (exhausted, ⟨[], feed.asked + 1⟩)
  | [last] => (last, ⟨[last], feed.asked + 1⟩)
  | next :: rest => (next, ⟨rest, feed.asked + 1⟩)

end Feed

end ChallengeGame.Scripted
