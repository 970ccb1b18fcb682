import ChallengeGame.Coordinator.Activity
import ChallengeGame.Scheduler

/-!
# The coordinator's desk

A desk is a coordinator behind an inbox of one slot. Until it is started, heads are handed
to the coordinator directly. A running desk takes one head after the other out of its inbox
and works on each to its end; it ends for good when it is cancelled or when no later head
can be processed either. What happens to it is a sequence of actions, and any order of
enabled actions may occur.
-/

namespace ChallengeGame

namespace Desk

open Scheduler (CallId)

inductive Phase where
  | unstarted
  | running
  | ended
deriving DecidableEq

inductive Event where
  /-- a call that hands over a head returns -/
  | delivered (call : CallId) (head : BlockRef) (accepted : Bool)
  | began (head : BlockRef)
  | exchanged (exchange : Coordinator.Exchange)
  | finished (head : BlockRef) (result : Except Coordinator.Error Unit)
  /-- the work on a head was never finished -/
  | abandoned (head : BlockRef)
  /-- a head was never taken out of the inbox -/
  | discarded (head : BlockRef)
  | closeReturned (call : CallId)

inductive Action where
  /-- a head is handed to the coordinator directly -/
  | process (head : BlockRef)
  | start
  /-- a call that hands over a head starts -/
  | send (call : CallId) (head : BlockRef)
  /-- a waiting call is given up by its caller -/
  | giveUp (call : CallId)
  /-- the first waiting call puts its head into the empty inbox -/
  | letIn
  /-- the first waiting call learns that the desk has ended -/
  | refuse
  | take
  | progress (exchange : Coordinator.Exchange)
  | finish
  /-- the shutdown signal of the desk is given -/
  | cancel
  /-- a running desk notices the shutdown -/
  | stop
  | close (call : CallId)
  /-- a call that waits for the desk to end returns -/
  | finishClose (call : CallId)

end Desk

structure Desk where
  coordinator : Coordinator
  phase : Desk.Phase
  cancelled : Bool
  inbox? : Option BlockRef
  /-- calls that wait for the inbox, in order -/
  waiting : List (Scheduler.CallId × BlockRef)
  /-- somebody closes or has closed the desk -/
  closed : Bool
  /-- calls that wait for the desk to end -/
  closers : List Scheduler.CallId

namespace Desk

open Scheduler (CallId)

def new (books : Coordinator.Books) : Desk :=
  ⟨Coordinator.new books, .unstarted, false, none, [], false, []⟩

abbrev Stepped := Desk × List Event

/-- The job that is to be offered. Nothing is offered once the desk has ended, whatever the
coordinator was at. -/
def wanted? (desk : Desk) : Option Job :=
  match desk.phase with
  | .ended => none
  | _ => desk.coordinator.wanted?

def process? (setup : Coordinator.Setup) (head : BlockRef) (desk : Desk) : Option Stepped :=
  match desk.phase with
  | .unstarted =>
    (desk.coordinator.begin? setup head).map fun coordinator =>
      ({ desk with coordinator }, [.began head])
  | _ => none

def start? (desk : Desk) : Option Stepped :=
  match desk.phase, desk.coordinator.activity with
  | .unstarted, .resting _ => some ({ desk with phase := .running }, [])
  | _, _ => none

def send? (call : CallId) (head : BlockRef) (desk : Desk) : Option Stepped :=
  match desk.phase with
  | .unstarted => none
  | .running =>
    -- Nobody overtakes a call that waits, even if the inbox is empty for a moment.
    if desk.inbox?.isNone && desk.waiting.isEmpty then
      some ({ desk with inbox? := some head }, [.delivered call head true])
    else some ({ desk with waiting := desk.waiting ++ [(call, head)] }, [])
  | .ended => some (desk, [.delivered call head false])

def giveUp? (call : CallId) (desk : Desk) : Option Stepped :=
  (desk.waiting.lookup call).map fun head =>
    ({ desk with waiting := desk.waiting.filter (·.1 ≠ call) }, [.delivered call head false])

def letIn? (desk : Desk) : Option Stepped :=
  match desk.phase, desk.inbox?, desk.waiting with
  | .running, none, (call, head) :: rest =>
    some ({ desk with inbox? := some head, waiting := rest }, [.delivered call head true])
  | _, _, _ => none

def refuse? (desk : Desk) : Option Stepped :=
  match desk.phase, desk.waiting with
  | .ended, (call, head) :: rest => some ({ desk with waiting := rest }, [.delivered call head false])
  | _, _ => none

def take? (setup : Coordinator.Setup) (desk : Desk) : Option Stepped :=
  match desk.phase, desk.inbox? with
  | .running, some head =>
    (desk.coordinator.begin? setup head).map fun coordinator =>
      ({ desk with coordinator, inbox? := none }, [.began head])
  | _, _ => none

def progress? (exchange : Coordinator.Exchange) (desk : Desk) : Option Stepped :=
  match desk.phase with
  | .ended => none
  | _ =>
    (desk.coordinator.progress? exchange).map fun coordinator =>
      ({ desk with coordinator }, [.exchanged exchange])

/-- The end of a running desk. A head still in the inbox is lost. -/
def ending (desk : Desk) : Stepped :=
  ({ desk with phase := .ended, inbox? := none }, desk.inbox?.toList.map .discarded)

def isLast : Except Coordinator.Error Unit → Bool
  | .ok _ => false
  | .error .cancelled => true
  | .error error => error.isFatal

def finish? (desk : Desk) : Option Stepped :=
  match desk.phase, desk.coordinator.finish? with
  | .unstarted, some (head, result, coordinator) =>
    some ({ desk with coordinator }, [.finished head result])
  | .running, some (head, result, coordinator) =>
    let rested : Desk := { desk with coordinator }
    if isLast result then some (rested.ending.1, .finished head result :: rested.ending.2)
    else some (rested, [.finished head result])
  | _, _ => none

def abandoned (desk : Desk) : List Event :=
  match desk.coordinator.activity with
  | .working head _ => [.abandoned head]
  | .resting _ => []

def stop? (desk : Desk) : Option Stepped :=
  match desk.phase, desk.cancelled with
  | .running, true => some (desk.ending.1, desk.abandoned ++ desk.ending.2)
  | _, _ => none

/-- The first call tells the desk to end and waits for it. Any other returns at once. -/
def close? (call : CallId) (desk : Desk) : Option Stepped :=
  match desk.phase with
  | .unstarted => none
  | _ =>
    if desk.closed then some ({ desk with cancelled := true }, [.closeReturned call])
    else some ({ desk with cancelled := true, closed := true, closers := [call] }, [])

def finishClose? (call : CallId) (desk : Desk) : Option Stepped :=
  if desk.phase = .ended ∧ call ∈ desk.closers then
    some ({ desk with closers := desk.closers.filter (· ≠ call) }, [.closeReturned call])
  else none

def step? (setup : Coordinator.Setup) (desk : Desk) : Action → Option Stepped
  | .process head => process? setup head desk
  | .start => start? desk
  | .send call head => send? call head desk
  | .giveUp call => giveUp? call desk
  | .letIn => letIn? desk
  | .refuse => refuse? desk
  | .take => take? setup desk
  | .progress exchange => progress? exchange desk
  | .finish => finish? desk
  | .cancel => some ({ desk with cancelled := true }, [])
  | .stop => stop? desk
  | .close call => close? call desk
  | .finishClose call => finishClose? call desk

def run? (setup : Coordinator.Setup) : Desk → List Action → Option Stepped
  | desk, [] => some (desk, [])
  | desk, action :: rest => do
    let (desk, shown) ← step? setup desk action
    let (desk, later) ← run? setup desk rest
    some (desk, shown ++ later)

end Desk

end ChallengeGame
