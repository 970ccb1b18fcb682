import ChallengeGame.Crew
import ChallengeGame.Desk

/-!
# The challenger

A desk and a crew that work side by side. The jobs that the coordinator offers are calls
to the schedulers of the crew; while such a call waits, the coordinator waits. Everything
else of the two happens in any order.
-/

namespace ChallengeGame

namespace Challenger

structure Setup where
  coordinator : Coordinator.Setup
  /-- the account that transactions are sent from -/
  account : Address

inductive Event where
  | desk (event : Desk.Event)
  | crew (kind : ActionKind) (event : Scheduler.Event Job)
  /-- the coordinator learned what became of a job -/
  | offered (job : Job) (answer : Coordinator.Offer)

inductive Action where
  /-- anything at the desk except an answer to an offer -/
  | desk (action : Desk.Action)
  /-- the coordinator makes the offer it wants to make -/
  | offer
  /-- the coordinator notices the shutdown at an offer -/
  | interrupt
  /-- anything in the crew except a call of the coordinator -/
  | crew (kind : ActionKind) (action : Crew.Action)

end Challenger

structure Challenger where
  desk : Desk
  crew : Crew
  /-- the call of the coordinator waits for its slot -/
  offering : Bool

namespace Challenger

open Scheduler (CallId Enqueued)

abbrev Stepped := Challenger × List Event

def new (books : Coordinator.Books) (takes : ActionKind → Bool) : Challenger :=
  ⟨Desk.new books, Crew.new takes, false⟩

/-- The coordinator makes one call at a time, so all its calls share a number. -/
def coordinatorCall : CallId := 0

def answer : Enqueued → Coordinator.Offer
  | .queued => .queued
  | .dropped => .dropped
  | .closed _ => .closed

/-- A shutdown interrupts the offers that may wait. -/
def canInterrupt (job : Job) : Bool := job.kind.policy == .block

def returned? (shown : List (Scheduler.Event Job)) : Option Enqueued :=
  shown.findSome? fun
    | .returned _ _ result => some result
    | _ => none

def settle? (answer : Coordinator.Offer) (challenger : Challenger) : Option Stepped := do
  let job ← challenger.desk.wanted?
  let (desk, shown) ← challenger.desk.progress? ⟨.offer job, answer⟩
  some ({ challenger with desk, offering := false }, .offered job answer :: shown.map .desk)

/-- Takes over what became of a member of the crew. If a call of the coordinator has
returned, the coordinator goes on. -/
def adopt? (kind : ActionKind) (stepped : Scheduler.Stepped Job ExecutionQuery ExecutionQuery.Answer)
    (challenger : Challenger) : Option Stepped :=
  let adopted := { challenger with crew := challenger.crew.set kind (some stepped.1) }
  let shown := stepped.2.map (Event.crew kind)
  match returned? stepped.2 with
  | some result => (adopted.settle? (answer result)).map fun next => (next.1, shown ++ next.2)
  | none => some (adopted, shown)

/-- A job that nobody takes counts as refused. -/
def offer? (setup : Setup) (challenger : Challenger) : Option Stepped := do
  let job ← challenger.desk.wanted?
  if challenger.offering then none
  else match challenger.crew.get job.kind with
    | none => challenger.settle? .closed
    | some member =>
      let stepped := member.schedule (Crew.setup setup.account job.kind) coordinatorCall job
      { challenger with offering := true }.adopt? job.kind stepped

def retract (challenger : Challenger) : Challenger :=
  match challenger.offering, challenger.desk.wanted? with
  | true, some job =>
    { challenger with
      offering := false
      crew := challenger.crew.modify job.kind (·.map (·.giveUp coordinatorCall)) }
  | _, _ => challenger

def interrupt? (challenger : Challenger) : Option Stepped := do
  let job ← challenger.desk.wanted?
  if challenger.desk.cancelled && canInterrupt job then challenger.retract.settle? .cancelled else none

def desk? (setup : Setup) (action : Desk.Action) (challenger : Challenger) : Option Stepped := do
  let (desk, shown) ← challenger.desk.step? setup.coordinator action
  some ({ challenger with desk }, shown.map .desk)

def crew? (setup : Setup) (kind : ActionKind) (action : Crew.Action) (challenger : Challenger) :
    Option Stepped := do
  let member ← challenger.crew.get kind
  challenger.adopt? kind (← member.step? (Crew.setup setup.account kind) action)

def step? (setup : Setup) (challenger : Challenger) : Action → Option Stepped
  -- An offer is answered by the crew and by nobody else.
  | .desk (.progress ⟨.offer _, _⟩) => none
  | .desk .stop => do
    let (stopped, shown) ← challenger.retract.desk? setup .stop
    some (stopped, shown)
  | .desk action => challenger.desk? setup action
  | .offer => challenger.offer? setup
  | .interrupt => challenger.interrupt?
  -- Only the coordinator makes calls to the crew, and only it takes them back.
  | .crew _ (.schedule _ _) => none
  | .crew _ (.giveUp _) => none
  | .crew kind action => challenger.crew? setup kind action

def run? (setup : Setup) : Challenger → List Action → Option Stepped
  | challenger, [] => some (challenger, [])
  | challenger, action :: rest => do
    let (challenger, shown) ← step? setup challenger action
    let (challenger, later) ← run? setup challenger rest
    some (challenger, shown ++ later)

def metrics (challenger : Challenger) : Metrics :=
  { challenger.desk.coordinator.metrics with actions := challenger.crew.tallies }

end Challenger

end ChallengeGame
