import ChallengeGame.HeadWatch
import ChallengeGame.Service.Setup

/-!
# The service

A service is a challenger with a watch that hands heads over to its desk. It is started
once, and starting it again is refused. Stopping waits for the watch, then for the desk, then for the members of the crew
one after the other, so that nobody is stopped who may still be needed. Everything that
runs at the same time may happen in any order.
-/

namespace ChallengeGame

namespace Service

inductive Stage where
  | built
  | running
  /-- a stop waits for the watch -/
  | leavingWatch
  /-- a stop waits for the desk -/
  | leavingDesk
  /-- a stop waits for a member of the crew, some others are still to be closed -/
  | leavingCrew (kind : ActionKind) (others : List ActionKind)
  | stopped
deriving DecidableEq

inductive Event where
  | challenger (event : Challenger.Event)
  | watch (event : HeadWatch.Event)
  | startReturned (result : Except Error Unit)
  | stopReturned

inductive Action where
  | start (now : Nat)
  /-- anything about the watch except what becomes of its head -/
  | watch (action : HeadWatch.Action)
  /-- the watch hands over its head -/
  | send
  /-- anything about the challenger except what the watch or a stop do to it -/
  | challenger (action : Challenger.Action)
  /-- the shutdown signal of the service is given -/
  | cancel
  /-- a stop starts -/
  | stop
  /-- a stop goes on because what it waits for has ended -/
  | proceed

end Service

structure Service where
  challenger : Challenger
  watch? : Option HeadWatch
  /-- the call of the watch waits for the inbox -/
  sending : Bool
  stage : Service.Stage
  /-- the shutdown signal was given -/
  cancelled : Bool

namespace Service

open Scheduler (CallId)

abbrev Stepped := Service × List Event

def new (setup : Setup) (books : Coordinator.Books) : Service :=
  ⟨Challenger.new books setup.challenger.coordinator.takes, none, false, .built, false⟩

/-- The watch makes one call at a time, so all its calls share a number. -/
def watchCall : CallId := 0

def delivered? (shown : List Challenger.Event) : Option Bool :=
  shown.findSome? fun
    | .desk (.delivered _ _ accepted) => some accepted
    | _ => none

/-- Takes over what became of the challenger. If the call of the watch has returned, the
watch goes on. -/
def adopt? (setup : Setup) (stepped : Challenger.Stepped) (service : Service) : Option Stepped :=
  let adopted := { service with challenger := stepped.1 }
  let shown := stepped.2.map Event.challenger
  match delivered? stepped.2 with
  | none => some (adopted, shown)
  | some accepted => do
    let (watch, seen) ← (← service.watch?).step? setup.period (.deliver accepted)
    some ({ adopted with watch? := some watch, sending := false }, shown ++ seen.map .watch)

def challenger? (setup : Setup) (action : Challenger.Action) (service : Service) : Option Stepped := do
  service.adopt? setup (← service.challenger.step? setup.challenger action)

/-! ## Start and shutdown -/

/-- Starts the crew, the desk and the watch, under the shutdown signal as it is. While a stop
is under way, nobody else has the service at hand. -/
def start? (now : Nat) (service : Service) : Option Stepped :=
  match service.stage with
  | .built => do
    let crew := service.challenger.crew.map (·.map (·.start service.cancelled))
    let (desk, shown) ← Desk.start? { service.challenger.desk with cancelled := service.cancelled }
    some ({ service with
        challenger := { service.challenger with desk, crew }
        watch? := some { HeadWatch.new now with cancelled := service.cancelled }
        stage := .running },
      (shown.map fun event => .challenger (.desk event)) ++ [.startReturned (.ok ())])
  | .running | .stopped => some (service, [.startReturned (.error .alreadyStarted)])
  | _ => none

/-- The shutdown signal reaches whatever was started. -/
def cancel (service : Service) : Service :=
  match service.stage with
  | .built => { service with cancelled := true }
  | _ =>
    { service with
      cancelled := true
      challenger := { service.challenger with
        desk := { service.challenger.desk with cancelled := true }
        crew := service.challenger.crew.map (·.map (·.cancel)) }
      watch? := service.watch?.map fun watch => { watch with cancelled := true } }

/-! ## The watch -/

def moveWatch? (setup : Setup) (action : HeadWatch.Action) (service : Service) : Option Stepped := do
  let (watch, seen) ← (← service.watch?).step? setup.period action
  some ({ service with watch? := some watch }, seen.map .watch)

def send? (setup : Setup) (service : Service) : Option Stepped := do
  let sending := { service with sending := true }
  match (← service.watch?).phase, service.sending with
  | .delivering head, false => sending.challenger? setup (.desk (.send watchCall head))
  | _, _ => none

/-- The watch notices the shutdown. A call of it that waits is taken back. -/
def stopWatch? (setup : Setup) (service : Service) : Option Stepped := do
  if service.sending then
    if (← service.watch?).cancelled then service.challenger? setup (.desk (.giveUp watchCall))
    else none
  else service.moveWatch? setup .stop

/-! ## Stopping -/

def stopCall : CallId := 1

/-- There is nothing to stop before the start, nor after a stop. -/
def stop? (service : Service) : Option Stepped :=
  match service.stage with
  | .running =>
    some ({ service with
      watch? := service.watch?.map fun watch => { watch with cancelled := true }
      stage := .leavingWatch }, [])
  | .built | .stopped => some (service, [.stopReturned])
  | _ => none

/-- Closes the next member that there is. After the last one nothing is left running. -/
def closeNext? (setup : Setup) (service : Service) : List ActionKind → Option Stepped
  | [] => some ({ service with stage := .stopped }.cancel, [.stopReturned])
  | kind :: others =>
    if service.challenger.crew.takes kind then
      { service with stage := .leavingCrew kind others }.challenger? setup (.crew kind (.close stopCall))
    else closeNext? setup service others

def proceed? (setup : Setup) (service : Service) : Option Stepped :=
  match service.stage with
  | .leavingWatch => do
    -- From here on nobody hands heads over to the desk.
    let leaving := { service with stage := .leavingDesk }
    if (← service.watch?).phase = .stopped then leaving.challenger? setup (.desk (.close stopCall))
    else none
  | .leavingDesk => do
    -- From here on nobody offers jobs to the crew.
    let (service, shown) ← service.challenger? setup (.desk (.finishClose stopCall))
    let (service, later) ← service.closeNext? setup ActionKind.all
    some (service, shown ++ later)
  | .leavingCrew kind others => do
    let (service, shown) ← service.challenger? setup (.crew kind (.finishClose stopCall))
    let (service, later) ← service.closeNext? setup others
    some (service, shown ++ later)
  | _ => none

/-! ## Steps -/

/-- What happens to a challenger of its own accord. -/
def isInternal : Challenger.Action → Bool
  | .desk (.process _) | .desk .start | .desk (.send _ _) | .desk (.giveUp _) | .desk .cancel
  | .desk (.close _) | .desk (.finishClose _) => false
  | .crew _ (.start _) | .crew _ .cancel | .crew _ (.close _) | .crew _ (.finishClose _) => false
  | _ => true

def step? (setup : Setup) (service : Service) : Action → Option Stepped
  | .start now => service.start? now
  | .watch (.deliver _) => none
  | .watch .cancel => none
  | .watch .stop => service.stopWatch? setup
  | .watch action => service.moveWatch? setup action
  | .send => service.send? setup
  | .challenger action => if isInternal action then service.challenger? setup action else none
  | .cancel => some (service.cancel, [])
  | .stop => service.stop?
  | .proceed => service.proceed? setup

def run? (setup : Setup) : Service → List Action → Option Stepped
  | service, [] => some (service, [])
  | service, action :: rest => do
    let (service, shown) ← step? setup service action
    let (service, later) ← run? setup service rest
    some (service, shown ++ later)

/-- The highest block acted on, as long as the service runs. -/
def lastActed (service : Service) : BlockNumber :=
  match service.stage with
  | .running => service.challenger.desk.coordinator.lastActed
  | _ => 0

end Service

end ChallengeGame
