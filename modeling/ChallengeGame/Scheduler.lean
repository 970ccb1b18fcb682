import ChallengeGame.Metrics
import ChallengeGame.Program

/-!
# Schedulers

A scheduler is a mailbox of one slot in front of a worker that carries out one job at a
time. What happens to it is a sequence of actions: calls that schedule jobs, the
worker's moves, cancellation and closing. Each action is one step, and any order of
enabled actions may occur.

A mailbox is open until its worker has stopped. A scheduler that was never started has
an open mailbox and stops only by being closed. A call that waits for the slot is let
in by a step of its own, so a job that was taken out leaves the slot empty until then.
-/

namespace ChallengeGame

/-- What happens to a job while the slot is taken. -/
inductive MailboxPolicy where
  | block
  | dropIfBusy
deriving DecidableEq

namespace Scheduler

/-- Tells apart the calls that are under way. -/
abbrev CallId := Nat

inductive Ending where
  | submitted
  | skipped
  | failed
  /-- the worker did not survive it -/
  | panicked
deriving DecidableEq

def Ending.result? : Ending → Option ActionResult
  | submitted => some .succeeded
  | skipped => some .skipped
  | failed => some .failed
  | panicked => none

inductive Enqueued where
  | queued
  | dropped
  /-- the worker of this kind has stopped for good -/
  | closed (kind : ActionKind)
deriving DecidableEq

def closedMessage (kind : ActionKind) : String := kind.name ++ " scheduler is closed"

structure Setup (Job Query : Type) (Answer : Query → Type) where
  kind : ActionKind
  policy : MailboxPolicy
  execute : Job → Program Query Answer Ending

inductive Worker (Job Query : Type) (Answer : Query → Type) where
  | unstarted
  | listening
  | executing (job : Job) (rest : Program Query Answer Ending)
  | stopped

inductive Lifecycle where
  | idle
  | running
  | closed
deriving DecidableEq

inductive Event (Job : Type) where
  | returned (call : CallId) (job : Job) (result : Enqueued)
  | took (job : Job)
  | ended (job : Job) (ending : Ending)
  /-- an execution that was never finished -/
  | abandoned (job : Job)
  /-- a job that was never taken out of its mailbox -/
  | discarded (job : Job)
  | closeReturned (call : CallId)
deriving DecidableEq

inductive Action (Job Query : Type) (Answer : Query → Type) where
  /-- a call starts -/
  | schedule (call : CallId) (job : Job)
  /-- a waiting call is given up by its caller -/
  | giveUp (call : CallId)
  /-- the first waiting call puts its job into the empty slot -/
  | letIn
  /-- the first waiting call learns that the mailbox is closed -/
  | refuse
  /-- the worker is started, possibly under a cancelled shutdown signal -/
  | start (cancelled : Bool)
  /-- the shutdown signal that the worker was started under is given -/
  | cancel
  | close (call : CallId)
  /-- a call that waits for the worker to stop returns -/
  | finishClose (call : CallId)
  | take
  | progress (exchange : Program.Exchange Query Answer)
  | finish
  /-- the worker notices the shutdown -/
  | stop

end Scheduler

structure Scheduler (Job Query : Type) (Answer : Query → Type) where
  lifecycle : Scheduler.Lifecycle
  /-- the worker was told to stop -/
  cancelled : Bool
  worker : Scheduler.Worker Job Query Answer
  slot? : Option Job
  /-- calls that wait for the slot, in order -/
  waiting : List (Scheduler.CallId × Job)
  /-- calls that wait for the worker to stop -/
  closers : List Scheduler.CallId
  tally : Tally

namespace Scheduler

variable {Job Query : Type} {Answer : Query → Type}

def new : Scheduler Job Query Answer :=
  ⟨.idle, false, .unstarted, none, [], [], Tally.zero⟩

def Worker.isStopped : Worker Job Query Answer → Bool
  | stopped => true
  | _ => false

/-- Whether jobs can still be put into the mailbox. -/
def isOpen (scheduler : Scheduler Job Query Answer) : Bool := !scheduler.worker.isStopped

abbrev Stepped (Job Query : Type) (Answer : Query → Type) :=
  Scheduler Job Query Answer × List (Event Job)

def schedule (setup : Setup Job Query Answer) (call : CallId) (job : Job)
    (scheduler : Scheduler Job Query Answer) : Stepped Job Query Answer :=
  if !scheduler.isOpen then (scheduler, [.returned call job (.closed setup.kind)])
  else match setup.policy with
    | .block =>
      -- Nobody overtakes a call that waits, even if the slot is empty for a moment.
      if scheduler.slot?.isNone && scheduler.waiting.isEmpty then
        ({ scheduler with slot? := some job }, [.returned call job .queued])
      else ({ scheduler with waiting := scheduler.waiting ++ [(call, job)] }, [])
    | .dropIfBusy =>
      if scheduler.slot?.isNone then
        ({ scheduler with slot? := some job }, [.returned call job .queued])
      else ({ scheduler with tally := scheduler.tally.record .dropped }, [.returned call job .dropped])

def giveUp (call : CallId) (scheduler : Scheduler Job Query Answer) : Scheduler Job Query Answer :=
  { scheduler with waiting := scheduler.waiting.filter (·.1 ≠ call) }

def letIn? (scheduler : Scheduler Job Query Answer) : Option (Stepped Job Query Answer) :=
  match scheduler.slot?, scheduler.waiting with
  | none, (call, job) :: rest =>
    if scheduler.isOpen then
      some ({ scheduler with slot? := some job, waiting := rest }, [.returned call job .queued])
    else none
  | _, _ => none

def refuse? (setup : Setup Job Query Answer) (scheduler : Scheduler Job Query Answer) :
    Option (Stepped Job Query Answer) :=
  match scheduler.waiting with
  | (call, job) :: rest =>
    if scheduler.isOpen then none
    else some ({ scheduler with waiting := rest }, [.returned call job (.closed setup.kind)])
  | [] => none

def start (cancelled : Bool) (scheduler : Scheduler Job Query Answer) : Scheduler Job Query Answer :=
  match scheduler.lifecycle with
  | .idle => { scheduler with lifecycle := .running, cancelled, worker := .listening }
  | _ => scheduler

/-- A shutdown signal reaches only a worker that was started. -/
def cancel (scheduler : Scheduler Job Query Answer) : Scheduler Job Query Answer :=
  match scheduler.lifecycle with
  | .idle => scheduler
  | _ => { scheduler with cancelled := true }

/-- What is left in the slot when the mailbox closes. -/
def discarded (scheduler : Scheduler Job Query Answer) : List (Event Job) :=
  scheduler.slot?.toList.map .discarded

/-- The first call tells the worker to stop and waits for it. A call that finds the
scheduler closed already returns at once. -/
def close (call : CallId) (scheduler : Scheduler Job Query Answer) : Stepped Job Query Answer :=
  match scheduler.lifecycle with
  | .idle =>
    ({ scheduler with lifecycle := .closed, worker := .stopped, slot? := none },
      scheduler.discarded ++ [.closeReturned call])
  | .running =>
    ({ scheduler with
        lifecycle := .closed
        cancelled := true
        closers := scheduler.closers ++ [call] }, [])
  | .closed => (scheduler, [.closeReturned call])

def finishClose? (call : CallId) (scheduler : Scheduler Job Query Answer) :
    Option (Stepped Job Query Answer) :=
  if scheduler.worker.isStopped && scheduler.closers.contains call then
    some ({ scheduler with closers := scheduler.closers.filter (· ≠ call) }, [.closeReturned call])
  else none

def take? (setup : Setup Job Query Answer) (scheduler : Scheduler Job Query Answer) :
    Option (Stepped Job Query Answer) :=
  match scheduler.worker, scheduler.slot? with
  | .listening, some job =>
    some ({ scheduler with worker := .executing job (setup.execute job), slot? := none }, [.took job])
  | _, _ => none

def progress? [DecidableEq Query] (exchange : Program.Exchange Query Answer)
    (scheduler : Scheduler Job Query Answer) : Option (Stepped Job Query Answer) :=
  match scheduler.worker with
  | .executing job rest =>
    (rest.resume exchange.query exchange.answer).map fun rest =>
      ({ scheduler with worker := .executing job rest }, [])
  | _ => none

def recordEnding (tally : Tally) (ending : Ending) : Tally :=
  match ending.result? with
  | some result => tally.record result
  | none => tally

/-- After an execution the worker listens again, unless it did not survive. -/
def finish? (scheduler : Scheduler Job Query Answer) : Option (Stepped Job Query Answer) :=
  match scheduler.worker with
  | .executing job (.done .panicked) =>
    some ({ scheduler with worker := .stopped, slot? := none },
      .ended job .panicked :: scheduler.discarded)
  | .executing job (.done ending) =>
    some ({ scheduler with worker := .listening, tally := recordEnding scheduler.tally ending },
      [.ended job ending])
  | _ => none

def stop? (scheduler : Scheduler Job Query Answer) : Option (Stepped Job Query Answer) :=
  let stopped : Scheduler Job Query Answer := { scheduler with worker := .stopped, slot? := none }
  match scheduler.cancelled, scheduler.worker with
  | true, .listening => some (stopped, scheduler.discarded)
  | true, .executing job _ => some (stopped, .abandoned job :: scheduler.discarded)
  | _, _ => none

def step? [DecidableEq Query] (setup : Setup Job Query Answer) (scheduler : Scheduler Job Query Answer) :
    Action Job Query Answer → Option (Stepped Job Query Answer)
  | .schedule call job => some (schedule setup call job scheduler)
  | .giveUp call => some (giveUp call scheduler, [])
  | .letIn => letIn? scheduler
  | .refuse => refuse? setup scheduler
  | .start cancelled => some (start cancelled scheduler, [])
  | .cancel => some (cancel scheduler, [])
  | .close call => some (close call scheduler)
  | .finishClose call => finishClose? call scheduler
  | .take => take? setup scheduler
  | .progress exchange => progress? exchange scheduler
  | .finish => finish? scheduler
  | .stop => stop? scheduler

def run? [DecidableEq Query] (setup : Setup Job Query Answer) :
    Scheduler Job Query Answer → List (Action Job Query Answer) → Option (Stepped Job Query Answer)
  | scheduler, [] => some (scheduler, [])
  | scheduler, action :: rest => do
    let (scheduler, shown) ← step? setup scheduler action
    let (scheduler, later) ← run? setup scheduler rest
    some (scheduler, shown ++ later)

end Scheduler

end ChallengeGame
