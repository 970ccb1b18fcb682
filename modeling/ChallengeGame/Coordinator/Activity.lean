import ChallengeGame.Coordinator
import ChallengeGame.Metrics

/-!
# A coordinator at work

A coordinator rests with its books or works on one head. The highest block it acted on
moves with every job that is taken, so it counts even if the work on the head fails
later.
-/

namespace ChallengeGame

namespace Coordinator

inductive Activity where
  | resting (books : Books)
  | working (head : BlockRef) (rest : Asking Result)

abbrev Exchange := Program.Exchange Query Query.Answer

end Coordinator

structure Coordinator where
  activity : Coordinator.Activity
  /-- the highest block of a commitment that a job was taken for -/
  lastActed : BlockNumber
  /-- the same as a gauge shows it -/
  gauge : Nat

namespace Coordinator

def new (books : Books) : Coordinator := ⟨.resting books, 0, 0⟩

/-- The coordinator's share of the metrics, which is only the gauge. -/
def metrics (coordinator : Coordinator) : Metrics :=
  { Metrics.new with highestActed := coordinator.gauge }

/-- Takes notice of what the coordinator tells. -/
def note (query : Query) (coordinator : Coordinator) : Coordinator :=
  match query with
  | .acted block =>
    { coordinator with
      lastActed := max coordinator.lastActed block
      gauge := (coordinator.metrics.recordActed block).highestActed }
  | _ => coordinator

def begin? (setup : Setup) (head : BlockRef) (coordinator : Coordinator) : Option Coordinator :=
  match coordinator.activity with
  | .resting books => some { coordinator with activity := .working head (process setup books head) }
  | .working _ _ => none

def progress? (exchange : Exchange) (coordinator : Coordinator) : Option Coordinator :=
  match coordinator.activity with
  | .working head rest =>
    (rest.resume exchange.query exchange.answer).map fun rest =>
      { coordinator.note exchange.query with activity := .working head rest }
  | .resting _ => none

def finish? (coordinator : Coordinator) : Option (BlockRef × Except Error Unit × Coordinator) :=
  match coordinator.activity with
  | .working head (.done (result, books)) =>
    some (head, result, { coordinator with activity := .resting books })
  | _ => none

def wanted? (coordinator : Coordinator) : Option Job :=
  match coordinator.activity with
  | .working _ (.ask (.offer job) _) => some job
  | _ => none

end Coordinator

end ChallengeGame
