import ChallengeGame.Scheduler.Pump
import ChallengeGame.Scripted.Executor

/-!
# Rehearsing a scheduler

One scheduler over a scripted executor. After every step the worker runs as far as it
can, then the first waiting call has its turn, and so on until nothing moves.
-/

namespace ChallengeGame.Rehearsal

open Scheduler (CallId Enqueued Event)
open Scripted (Executor ExecutorQuery)

structure Mailbox where
  setup : Scheduler.Setup UInt64 ExecutorQuery ExecutorQuery.Answer
  scheduler : Scheduler UInt64 ExecutorQuery ExecutorQuery.Answer
  executor : Executor
  /-- the shutdown signal that the worker is started under -/
  cancelled : Bool
  /-- the jobs of all calls, by their number -/
  calls : List UInt64
  /-- the calls that returned since the last report -/
  returned : List (CallId × Enqueued)

namespace Mailbox

inductive Step where
  | schedule (jobs : List UInt64)
  | start
  | close
  | release (permits : Nat)
  | cancel

def note (shown : List (Event UInt64)) (mailbox : Mailbox) : Mailbox :=
  let returned := shown.filterMap fun
    | .returned call _ result => some (call, result)
    | _ => none
  { mailbox with returned := mailbox.returned ++ returned }

def put (stepped : Scheduler.Stepped UInt64 ExecutorQuery ExecutorQuery.Answer) (mailbox : Mailbox) :
    Mailbox :=
  { mailbox with scheduler := stepped.1 }.note stepped.2

def pump (mailbox : Mailbox) : Mailbox :=
  let pumped := Scheduler.pump mailbox.setup Executor.respond mailbox.scheduler mailbox.executor
  { mailbox with scheduler := pumped.scheduler, executor := pumped.surroundings }.note pumped.shown

/-- The first waiting call has its turn, if the slot is empty or the mailbox closed. -/
def turn? (mailbox : Mailbox) : Option Mailbox :=
  (mailbox.scheduler.letIn? <|> mailbox.scheduler.refuse? mailbox.setup).map (mailbox.put ·)

/-- Every turn ends a waiting call, so there are no more turns than calls. -/
def settleFrom : (fuel : Nat) → Mailbox → Mailbox
  | 0, mailbox => mailbox
  | fuel + 1, mailbox =>
    match mailbox.pump.turn? with
    | some mailbox => settleFrom fuel mailbox
    | none => mailbox.pump

def settle (mailbox : Mailbox) : Mailbox :=
  settleFrom (mailbox.scheduler.waiting.length + 1) mailbox

def schedule (mailbox : Mailbox) (job : UInt64) : Mailbox :=
  { mailbox with calls := mailbox.calls ++ [job] }.put
    (mailbox.scheduler.schedule mailbox.setup mailbox.calls.length job)

def apply (mailbox : Mailbox) : Step → Mailbox
  | .schedule jobs => jobs.foldl schedule mailbox
  | .start => { mailbox with scheduler := mailbox.scheduler.start mailbox.cancelled }
  | .close => mailbox.put (mailbox.scheduler.close 0)
  | .release permits =>
    { mailbox with
      executor := { mailbox.executor with gate := mailbox.executor.gate.release permits } }
  | .cancel => { mailbox with scheduler := mailbox.scheduler.cancel, cancelled := true }

/-- The jobs of the calls that returned, in the order of the calls. -/
def results (mailbox : Mailbox) : List (UInt64 × Enqueued) :=
  mailbox.calls.zipIdx.filterMap fun (job, call) =>
    (mailbox.returned.lookup call).map fun result => (job, result)

def perform (mailbox : Mailbox) (step : Step) : Mailbox :=
  ({ mailbox with returned := [] }.apply step).settle

end Mailbox

end ChallengeGame.Rehearsal
