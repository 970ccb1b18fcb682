import ChallengeGame.Scheduler

/-!
# An executor that follows a script

It notes when a job starts and when it is finished, waits for a permit in between if it
is gated, and ends each job as told.
-/

namespace ChallengeGame.Scripted

open ChallengeGame.Scheduler (Ending)

inductive ExecutorQuery where
  | begin (job : UInt64)
  | permit
  | conclude (job : UInt64)
deriving DecidableEq

def ExecutorQuery.Answer : ExecutorQuery → Type := fun _ => Unit

/-- The permits of a gate, or no gate at all. -/
abbrev Gate := Option Nat

namespace Gate

/-- Passes a gate, which takes a permit. -/
def pass? : Gate → Option Gate
  | none => some none
  | some 0 => none
  | some (permits + 1) => some (some permits)

def release (count : Nat) (gate : Gate) : Gate := gate.map (· + count)

end Gate

structure Executor where
  gate : Gate
  started : List UInt64
  finished : List UInt64

namespace Executor

def respond (query : ExecutorQuery) (executor : Executor) : Option (query.Answer × Executor) :=
  match query with
  | .begin job => some ((), { executor with started := executor.started ++ [job] })
  | .permit => executor.gate.pass?.map fun gate => ((), { executor with gate })
  | .conclude job => some ((), { executor with finished := executor.finished ++ [job] })

def execute (endings : List (UInt64 × Ending)) (job : UInt64) :
    Program ExecutorQuery ExecutorQuery.Answer Ending := do
  let _ ← Program.query (ExecutorQuery.begin job)
  let _ ← Program.query ExecutorQuery.permit
  let _ ← Program.query (ExecutorQuery.conclude job)
  pure ((endings.lookup job).getD .submitted)

end Executor

end ChallengeGame.Scripted
