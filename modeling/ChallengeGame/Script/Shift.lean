import ChallengeGame.Config.Notation
import ChallengeGame.Metrics.Exposition
import ChallengeGame.Rehearsal.Shift
import ChallengeGame.Script.Scene

/-!
# Shifts of a service in scripts
-/

namespace ChallengeGame.Script

open Contract (Registry)
open Rehearsal (Play Shift)
open Scripted (Scene)

def configErrorName : ConfigError → String
  | .missingRpcUrl => "MissingL1EthRpc"
  | .missingInbox => "MissingBatchInboxAddress"
  | .missingContract => "MissingDaChallengeAddress"
  | .missingBatchers => "MissingBatcherAddresses"
  | .missingKind => "MissingDaCommitmentKind"
  | .zeroPollInterval => "ZeroPollInterval"
  | .nothingEnabled => "NothingEnabled"

def serviceErrorName : Service.Error → String
  | .config fault => "Config." ++ configErrorName fault
  | .registry _ => "Registry"
  | .contract _ => "Contract"
  | .windowOutOfRange _ _ => "WindowOutOfRange"
  | .coordinator _ => "Actor"
  | .alreadyStarted => "AlreadyStarted"

def serviceErrorOut (error : Service.Error) : Document :=
  match error, failureOut (serviceErrorName error) error.failure with
  | .registry inner, .record fields => .record (fields ++ [("inner", registryErrorOut inner)])
  | _, document => document

def asReading (document : Document) : Read Scripted.Reading := do
  let delay := (← optional asNatural document "hang").getD 0
  match present document "head" with
  | some head => .ok ⟨delay, .head (← asBlockRef head)⟩
  | none => .ok ⟨delay, .failed ⟨(← optional asText document "error").getD "", []⟩⟩

def asShiftStep (step : Document) : Read Shift.Step := do
  match ← asSetter step with
  | some change => .ok (.adjust change)
  | none =>
    match ← text step "s" with
    | "start" => .ok .start
    | "stop" => .ok .stop
    | "cancel" => .ok .cancel
    | "advance" => .ok (.advance (← natural step "ms"))
    | "metrics" => .ok .look
    | other => .error ("unknown step " ++ other)

/-- The calls that were made, in the order of their texts. -/
def callReport (scene : Scene) : List Field :=
  let calls := (scene.caller.made.map callOut).mergeSort fun a b =>
    !(decide (Json.render b < Json.render a))
  listed "rpc" calls

/-- What a service shows of its surroundings. What it acted on is in its metrics. -/
def shiftScene (scene : Scene) : List Field :=
  sceneReport { scene with acted := [] } ++ callReport scene

def shiftReport (step : Document) (play : Play Shift) : Read (List Field) := do
  let service := play.company.service
  let exposition := match ← text step "s" with
    | "metrics" => [("text", .text service.challenger.metrics.exposition)]
    | _ => []
  .ok (exposition ++ shiftScene play.scene ++ [
    ("polls", .ofNat play.company.feed.asked),
    ("last_acted", number service.lastActed.toNat)])

def shiftStep (play : Play Shift) (step : Document) : Read (Document × Play Shift) := do
  let performed := Shift.perform play (← asShiftStep step)
  let play' := performed.toOption.getD play
  let result : List Field := match ← text step "s", performed with
    | "start", .ok _ => [("r", .text "ok")]
    | _, .ok _ => []
    | _, .error error => [("r", serviceErrorOut error)]
  .ok (.record (result ++ (← shiftReport step play')), { play' with scene := play'.scene.reported })

/-- The registry of a script: the one in use with the caller of the script, or one whose
only entry is the contract of the script. -/
def asRegistry (input : Document) (config : Config) (scene : Scene) :
    Read (Registry Scripted.Binder × Scene) := do
  match present input "responses" with
  | some _ =>
    .ok (Registry.standard (.deployed (some (← account input))), { scene with caller := ← asCaller input })
  | none =>
    let contract := (scene.posts.challenge.contract?).getD
      (Scripted.Contract.new (FixedBytes.zero 20) 0 0)
    .ok (Registry.empty.register (config.commitmentType, config.commitmentKind) (.existing contract), scene)

def shift (input : Document) : Read Document := do
  match Config.ofDocument? .json (← get input "config") with
  | none => .ok (.record [("error", .text "json")])
  | some config =>
    let (registry, scene) ← asRegistry input config (← asScene input)
    let feed : Scripted.Feed := ⟨← list asReading input "heads", 0⟩
    let (prepared, scene) :=
      Shift.prepare registry (← account input) (← flag input "blobs") config feed scene
    match prepared with
    | .error error => .ok (.list [.record (("new", serviceErrorOut error) :: shiftScene scene)])
    | .ok shift =>
      let (answers, _) ← runSteps input ⟨shift, scene.reported⟩ shiftStep
      .ok (.list (.record (("new", .text "ok") :: shiftScene scene) :: answers))

end ChallengeGame.Script
