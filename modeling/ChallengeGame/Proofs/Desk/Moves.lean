import ChallengeGame.Desk
import ChallengeGame.Proofs.Steps

/-!
# What can happen at a desk

`Move` lists everything that an action can do at a desk, with what has to hold before and what is
shown; `step?_eq_some_iff` says that the list is exact.
-/

namespace ChallengeGame.Desk

open Scheduler (CallId)

inductive Move (setup : Coordinator.Setup) (desk : Desk) : Action → Desk → List Event → Prop where
  | handed {head : BlockRef} {coordinator : Coordinator} :
      desk.phase = .unstarted → desk.coordinator.begin? setup head = some coordinator →
      Move setup desk (.process head) { desk with coordinator } [.began head]
  | started {books : Coordinator.Books} :
      desk.phase = .unstarted → desk.coordinator.activity = .resting books →
      Move setup desk .start { desk with phase := .running } []
  | accepted {call : CallId} {head : BlockRef} :
      desk.phase = .running → desk.inbox? = none → desk.waiting = [] →
      Move setup desk (.send call head) { desk with inbox? := some head }
        [.delivered call head true]
  | queuedUp {call : CallId} {head : BlockRef} :
      desk.phase = .running → (desk.inbox? = none → desk.waiting ≠ []) →
      Move setup desk (.send call head) { desk with waiting := desk.waiting ++ [(call, head)] } []
  | turnedAway {call : CallId} {head : BlockRef} :
      desk.phase = .ended → Move setup desk (.send call head) desk [.delivered call head false]
  | givenUp {call : CallId} {head : BlockRef} :
      desk.waiting.lookup call = some head →
      Move setup desk (.giveUp call) { desk with waiting := desk.waiting.filter (·.1 ≠ call) }
        [.delivered call head false]
  | letIn {call : CallId} {head : BlockRef} {rest : List (CallId × BlockRef)} :
      desk.phase = .running → desk.inbox? = none → desk.waiting = (call, head) :: rest →
      Move setup desk .letIn { desk with inbox? := some head, waiting := rest }
        [.delivered call head true]
  | refused {call : CallId} {head : BlockRef} {rest : List (CallId × BlockRef)} :
      desk.phase = .ended → desk.waiting = (call, head) :: rest →
      Move setup desk .refuse { desk with waiting := rest } [.delivered call head false]
  | took {head : BlockRef} {coordinator : Coordinator} :
      desk.phase = .running → desk.inbox? = some head →
      desk.coordinator.begin? setup head = some coordinator →
      Move setup desk .take { desk with coordinator, inbox? := none } [.began head]
  | progressed {exchange : Coordinator.Exchange} {coordinator : Coordinator} :
      desk.phase ≠ .ended → desk.coordinator.progress? exchange = some coordinator →
      Move setup desk (.progress exchange) { desk with coordinator } [.exchanged exchange]
  /-- The work on a head is done, and the desk goes on or has not started anyway. -/
  | finished {head : BlockRef} {result : Except Coordinator.Error Unit}
      {coordinator : Coordinator} :
      desk.phase ≠ .ended → (desk.phase = .running → isLast result = false) →
      desk.coordinator.finish? = some (head, result, coordinator) →
      Move setup desk .finish { desk with coordinator } [.finished head result]
  | died {head : BlockRef} {result : Except Coordinator.Error Unit} {coordinator : Coordinator} :
      desk.phase = .running → isLast result = true →
      desk.coordinator.finish? = some (head, result, coordinator) →
      Move setup desk .finish { desk with coordinator, phase := .ended, inbox? := none }
        (.finished head result :: desk.inbox?.toList.map .discarded)
  | cancelled : Move setup desk .cancel { desk with cancelled := true } []
  | stopped :
      desk.phase = .running → desk.cancelled = true →
      Move setup desk .stop { desk with phase := .ended, inbox? := none }
        (desk.abandoned ++ desk.inbox?.toList.map .discarded)
  | closing {call : CallId} :
      desk.phase ≠ .unstarted → desk.closed = false →
      Move setup desk (.close call) { desk with cancelled := true, closed := true, closers := [call] }
        []
  | closedAgain {call : CallId} :
      desk.phase ≠ .unstarted → desk.closed = true →
      Move setup desk (.close call) { desk with cancelled := true } [.closeReturned call]
  | closeReturned {call : CallId} :
      desk.phase = .ended → call ∈ desk.closers →
      Move setup desk (.finishClose call)
        { desk with closers := desk.closers.filter (· ≠ call) } [.closeReturned call]

variable {setup : Coordinator.Setup} {desk last : Desk} {action : Action} {shown : List Event}

theorem Move.of_step? (stepped : desk.step? setup action = some (last, shown)) :
    Move setup desk action last shown := by
  cases action with
  | process head =>
    have same : process? setup head desk = some (last, shown) := stepped
    unfold process? at same
    split at same
    · obtain ⟨coordinator, begun, moved⟩ := Option.map_eq_some_iff.1 same
      cases moved
      exact .handed ‹_› begun
    · cases same
  | start =>
    have same : start? desk = some (last, shown) := stepped
    unfold start? at same
    split at same <;> cases same
    exact .started ‹_› ‹_›
  | send call head =>
    have same : send? call head desk = some (last, shown) := stepped
    unfold send? at same
    split at same
    · cases same
    · rename_i running
      split at same
      · rename_i free
        simp only [Bool.and_eq_true, Option.isNone_iff_eq_none, List.isEmpty_iff] at free
        cases same
        exact .accepted running free.1 free.2
      · rename_i busy
        simp only [Bool.and_eq_true, Option.isNone_iff_eq_none, List.isEmpty_iff, not_and] at busy
        cases same
        exact .queuedUp running busy
    · cases same; exact .turnedAway ‹_›
  | giveUp call =>
    obtain ⟨head, waits, moved⟩ := Option.map_eq_some_iff.1 stepped
    cases moved
    exact .givenUp waits
  | letIn =>
    have same : letIn? desk = some (last, shown) := stepped
    unfold letIn? at same
    split at same <;> cases same
    exact .letIn ‹_› ‹_› ‹_›
  | refuse =>
    have same : refuse? desk = some (last, shown) := stepped
    unfold refuse? at same
    split at same <;> cases same
    exact .refused ‹_› ‹_›
  | take =>
    have same : take? setup desk = some (last, shown) := stepped
    unfold take? at same
    split at same
    · obtain ⟨coordinator, begun, moved⟩ := Option.map_eq_some_iff.1 same
      cases moved
      exact .took ‹_› ‹_› begun
    · cases same
  | progress exchange =>
    have same : progress? exchange desk = some (last, shown) := stepped
    unfold progress? at same
    split at same
    · cases same
    · obtain ⟨coordinator, moved, rfl, rfl⟩ := Option.map_eq_some_iff.1 same
      exact .progressed ‹_› moved
  | finish =>
    have same : finish? desk = some (last, shown) := stepped
    unfold finish? at same
    split at same
    · rename_i unstarted done
      cases same
      exact .finished (by simp [unstarted]) (by simp [unstarted]) done
    · rename_i running done
      simp only at same
      split at same
      · rename_i ends
        cases same
        exact .died running ends done
      · rename_i goes
        cases same
        exact .finished (by simp [running]) (fun _ => by simpa using goes) done
    · cases same
  | cancel => cases stepped; exact .cancelled
  | stop =>
    have same : stop? desk = some (last, shown) := stepped
    unfold stop? at same
    split at same <;> cases same
    exact .stopped ‹_› ‹_›
  | close call =>
    have same : close? call desk = some (last, shown) := stepped
    unfold close? at same
    split at same
    · cases same
    · rename_i started
      split at same
      · cases same; exact .closedAgain started ‹_›
      · rename_i first; cases same; exact .closing started (by simpa using first)
  | finishClose call =>
    have same : finishClose? call desk = some (last, shown) := stepped
    unfold finishClose? at same
    split at same <;> cases same
    rename_i done
    exact .closeReturned done.1 done.2

theorem step?_eq_some_iff :
    desk.step? setup action = some (last, shown) ↔ Move setup desk action last shown := by
  refine ⟨Move.of_step?, fun move => ?_⟩
  cases move with
  | handed unstarted begun => simp [step?, process?, unstarted, begun]
  | started unstarted resting => simp [step?, start?, unstarted, resting]
  | accepted running free none => simp [step?, send?, running, free, none]
  | queuedUp running busy => simpa [step?, send?, running] using busy
  | turnedAway ended => simp [step?, send?, ended]
  | givenUp waits => simp [step?, giveUp?, waits]
  | letIn running free waiting => simp [step?, letIn?, running, free, waiting]
  | refused ended waiting => simp [step?, refuse?, ended, waiting]
  | took running waiting begun => simp [step?, take?, running, waiting, begun]
  | progressed going moved =>
    cases phase : desk.phase with
    | ended => exact absurd phase going
    | unstarted | running => simp [step?, progress?, phase, moved]
  | finished going ends done =>
    cases phase : desk.phase with
    | ended => exact absurd phase going
    | unstarted => simp [step?, finish?, phase, done]
    | running => simp [step?, finish?, phase, done, ends phase]
  | died running ends done => simp [step?, finish?, running, done, ends, ending]
  | cancelled => rfl
  | stopped running told => simp [step?, stop?, running, told, ending]
  | closing started first =>
    cases phase : desk.phase with
    | unstarted => exact absurd phase started
    | running | ended => simp [step?, close?, phase, first]
  | closedAgain started again =>
    cases phase : desk.phase with
    | unstarted => exact absurd phase started
    | running | ended => simp [step?, close?, phase, again]
  | closeReturned ended mem => simp [step?, finishClose?, ended, mem]

/-- A desk that has ended does nothing more about a head. -/
theorem Move.of_ended (ended : desk.phase = .ended) (move : Move setup desk action last shown) :
    last.phase = .ended ∧ (∀ event ∈ shown, (∃ call head, event = .delivered call head false) ∨
      ∃ call, event = .closeReturned call) := by
  cases move with
  | handed other | started other | accepted other | queuedUp other | letIn other | took other
  | died other | stopped other =>
    rw [ended] at other
    cases other
  | progressed going | finished going => exact absurd ended going
  | cancelled | closing => exact ⟨ended, by simp⟩
  | turnedAway | givenUp | refused | closedAgain | closeReturned => exact ⟨ended, by simp⟩

theorem run?_eq (setup : Coordinator.Setup) (desk : Desk) (actions : List Action) :
    run? setup desk actions = Steps.run? (step? setup) desk actions := by
  induction actions generalizing desk with
  | nil => rfl
  | cons action rest ih => simp only [run?, Steps.run?, ih]

end ChallengeGame.Desk
