import ChallengeGame.Table

/-!
# Follow-ups

A commitment that could not be settled is looked at again a fixed number of blocks
later, and not beyond its deadline. An interval of zero turns follow-ups off. A
commitment that would be due only after its deadline is not taken in, and then an
older entry for it stays as it is.
-/

namespace ChallengeGame

structure FollowUp where
  block : BlockRef
  commitment : Commitment
  /-- the last head at which another look can still lead to an action -/
  deadline : BlockNumber
  nextCheck : BlockNumber
deriving DecidableEq

namespace FollowUp

def key (followUp : FollowUp) : Table.Key :=
  Table.Key.of followUp.block.number followUp.commitment

end FollowUp

structure FollowUps where
  interval : UInt64
  entries : Table FollowUp
  /-- every follow-up stands under the block and the commitment it is about -/
  keyed : ∀ entry ∈ entries.entries, entry.1 = entry.2.key

namespace FollowUps

def new (interval : UInt64) : FollowUps := ⟨interval, Table.empty, by simp [Table.empty]⟩

def isEnabled (followUps : FollowUps) : Bool := 0 < followUps.interval

def size (followUps : FollowUps) : Nat := followUps.entries.size

def clear (followUps : FollowUps) : FollowUps := new followUps.interval

/-- The head of the next look at a commitment that was looked at now. -/
def nextCheck (followUps : FollowUps) (head : BlockNumber) : BlockNumber :=
  head.later followUps.interval

def track (followUps : FollowUps) (head : BlockNumber) (block : BlockRef)
    (commitment : Commitment) (deadline : BlockNumber) : FollowUps :=
  if followUps.isEnabled && followUps.nextCheck head ≤ deadline then
    let followUp : FollowUp := ⟨block, commitment, deadline, followUps.nextCheck head⟩
    { followUps with
      entries := followUps.entries.insert followUp.key followUp
      keyed := fun entry mem => by
        rcases Table.mem_put mem with rfl | mem
        · rfl
        · exact followUps.keyed entry mem }
  else followUps

/-- Takes out the commitments due at a head, oldest first. Those past their deadline
are dropped. -/
def due (followUps : FollowUps) (head : BlockNumber) : List FollowUp × FollowUps :=
  let alive := followUps.entries.filter fun _ entry => head ≤ entry.deadline
  ((alive.filter fun _ entry => entry.nextCheck ≤ head).values,
    { followUps with
      entries := alive.filter fun _ entry => !(entry.nextCheck ≤ head)
      keyed := fun entry mem =>
        followUps.keyed entry (List.mem_filter.1 (List.mem_filter.1 mem).1).1 })

end FollowUps

end ChallengeGame
