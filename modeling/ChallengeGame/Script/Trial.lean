import ChallengeGame.Rehearsal.Trial
import ChallengeGame.Script.Mailbox
import ChallengeGame.Script.Scene

/-!
# Trials of a challenger in scripts
-/

namespace ChallengeGame.Script

open Rehearsal (Play Trial)

def coordinatorErrorName : Coordinator.Error → String
  | .nothingToDo => "NothingToDo"
  | .advanceOrigin _ _ => "AdvanceOrigin"
  | .source error => "Source." ++ sourceErrorName error
  | .cancelled => "Cancelled"

def coordinatorErrorOut (error : Coordinator.Error) : Document :=
  let fatal : Field := ("fatal", .boolean error.isFatal)
  match failureOut (coordinatorErrorName error) error.failure with
  | .record fields => .record (fields ++ [fatal])
  | other => other

def asTrialStep (step : Document) : Read Trial.Step := do
  match ← asSetter step with
  | some change => .ok (.adjust change)
  | none =>
    match ← text step "s" with
    | "start" => .ok (.start (← optional asKind step "kind"))
    | "close" => .ok (.close (← optional asKind step "kind"))
    | "cancel_workers" => .ok .cancelCrew
    | "cancel" => .ok .cancel
    | "process" => .ok (.process (← asBlockRef (← get step "head")))
    | "start_actor" => .ok .startDesk
    | "notify" => .ok (.notify (← asBlockRef (← get step "head")))
    | "close_actor" => .ok .closeDesk
    | other => .error ("unknown step " ++ other)

def resultOut : Except Coordinator.Error Unit → Document
  | .ok _ => .text "ok"
  | .error error => coordinatorErrorOut error

/-- Once the desk runs by itself, its books cannot be looked into. -/
def deskOut (desk : Desk) : Document :=
  let lastActed : Field := ("last_acted", number desk.coordinator.lastActed.toNat)
  match desk.phase, desk.coordinator.activity with
  | .unstarted, .resting books =>
    .record [lastActed, ("follow_ups", .ofNat books.followUps.size), ("unlocks", .ofNat books.bonds.size)]
  | .unstarted, .working _ _ => .text "busy"
  | _, _ => .record [lastActed]

def tallyReport (tallies : PerKind Tally) : List Field :=
  match talliesOut (ActionKind.all.map fun kind => (kind, tallies.get kind)) with
  | .record [] => []
  | totals => [("metrics", totals)]

def trialReport (play : Play Trial) : Document :=
  let trial := play.company
  let undelivered := if trial.undelivered = 0 then [] else [("undelivered", .ofNat trial.undelivered)]
  .record (sceneReport play.scene ++ tallyReport trial.challenger.crew.tallies ++
    (trial.result?.toList.map fun result => ("done", resultOut result)) ++
    listed "delivered" (trial.delivered.map .boolean) ++ undelivered ++
    [("actor", deskOut trial.challenger.desk)])

def asCoordinatorSetup (input : Document) : Read Coordinator.Setup := do
  let (challengeWindow, resolveWindow) ← windows input
  let kinds ← list asKind input "with"
  .ok {
    challengeWindow, resolveWindow
    retryInterval := ← uint64 input "retry"
    rollup := ← asRollup (← get input "rollup")
    hasBlobs := ← flag input "blobs"
    takes := fun kind => kinds.contains kind }

def trial (input : Document) : Read Document := do
  let setup ← asCoordinatorSetup input
  match Coordinator.start setup with
  | .error error => .ok (.record [("new", coordinatorErrorOut error)])
  | .ok books =>
    let start : Play Trial := ⟨Trial.new ⟨setup, ← account input⟩ books, ← asScene input⟩
    let (answers, _) ← runSteps input start fun play step => do
      let play := Trial.perform play (← asTrialStep step)
      .ok (trialReport play, Trial.reported play)
    .ok (.list answers)

end ChallengeGame.Script
