import ChallengeGame.PerKind

/-!
# Metrics

How actions ended, counted for each kind, and the highest block acted on.
-/

namespace ChallengeGame

inductive ActionResult where
  | succeeded
  | skipped
  | failed
  | dropped
deriving DecidableEq

def ActionResult.name : ActionResult → String
  | succeeded => "succeeded"
  | skipped => "skipped"
  | failed => "failed"
  | dropped => "dropped"

/-- The number of actions of one kind for each way they can end. -/
structure Tally where
  succeeded : Nat
  skipped : Nat
  failed : Nat
  dropped : Nat
deriving DecidableEq

namespace Tally

def zero : Tally := ⟨0, 0, 0, 0⟩

def count (tally : Tally) : ActionResult → Nat
  | .succeeded => tally.succeeded
  | .skipped => tally.skipped
  | .failed => tally.failed
  | .dropped => tally.dropped

def record (tally : Tally) : ActionResult → Tally
  | .succeeded => { tally with succeeded := tally.succeeded + 1 }
  | .skipped => { tally with skipped := tally.skipped + 1 }
  | .failed => { tally with failed := tally.failed + 1 }
  | .dropped => { tally with dropped := tally.dropped + 1 }

theorem count_record (tally : Tally) (result other : ActionResult) :
    (tally.record result).count other = tally.count other + if result = other then 1 else 0 := by
  cases result <;> cases other <;> rfl

def samples (tally : Tally) : List (ActionResult × Nat) :=
  ([.dropped, .failed, .skipped, .succeeded].map fun result => (result, tally.count result)).filter
    fun sample => sample.2 ≠ 0

end Tally

namespace Gauge

/-- The largest value of a signed 64-bit gauge, which higher blocks show as. -/
def largest : Nat := 0x7FFFFFFFFFFFFFFF

/-- Moves a gauge up to a block. It never moves down. -/
def raise (gauge : Nat) (block : BlockNumber) : Nat := max gauge (min block.toNat largest)

end Gauge

structure Metrics where
  actions : PerKind Tally
  /-- the highest block acted on -/
  highestActed : Nat

namespace Metrics

def new : Metrics := ⟨PerKind.ofFn fun _ => Tally.zero, 0⟩

def recordAction (metrics : Metrics) (kind : ActionKind) (result : ActionResult) : Metrics :=
  { metrics with actions := metrics.actions.modify kind (·.record result) }

def recordActed (metrics : Metrics) (block : BlockNumber) : Metrics :=
  { metrics with highestActed := Gauge.raise metrics.highestActed block }

end Metrics

end ChallengeGame
