import ChallengeGame.Proofs.Program
import ChallengeGame.Scheduler
import Mathlib.Data.List.Induction

/-!
# What a scheduler can do

`Move` lists everything that an action can do to a scheduler, with what has to hold before
and what is shown. `step?_eq_some_iff` says that the list is complete and that nothing on it
is impossible, so that what is true of all moves is true of all steps; `run_induction` carries
it to all sequences of actions.
-/

namespace ChallengeGame.Scheduler

variable {Job Query : Type} {Answer : Query → Type}

section
variable (setup : Setup Job Query Answer)

/-- The scheduler without its worker and whatever was left in the slot. -/
def halted (scheduler : Scheduler Job Query Answer) : Scheduler Job Query Answer :=
  { scheduler with worker := .stopped, slot? := none }

inductive Move (scheduler : Scheduler Job Query Answer) :
    Action Job Query Answer → Scheduler Job Query Answer → List (Event Job) → Prop where
  /-- A call comes too late. -/
  | turnedAway {call : CallId} {job : Job} :
      scheduler.isOpen = false →
      Move scheduler (.schedule call job) scheduler [.returned call job (.closed setup.kind)]
  | admitted {call : CallId} {job : Job} :
      scheduler.isOpen = true → scheduler.slot? = none →
      (setup.policy = .block → scheduler.waiting = []) →
      Move scheduler (.schedule call job) { scheduler with slot? := some job }
        [.returned call job .queued]
  | queuedUp {call : CallId} {job : Job} :
      scheduler.isOpen = true → setup.policy = .block →
      (scheduler.slot? = none → scheduler.waiting ≠ []) →
      Move scheduler (.schedule call job)
        { scheduler with waiting := scheduler.waiting ++ [(call, job)] } []
  | dropped {call : CallId} {job other : Job} :
      scheduler.isOpen = true → setup.policy = .dropIfBusy → scheduler.slot? = some other →
      Move scheduler (.schedule call job)
        { scheduler with tally := scheduler.tally.record .dropped } [.returned call job .dropped]
  | givenUp {call : CallId} :
      Move scheduler (.giveUp call)
        { scheduler with waiting := scheduler.waiting.filter (·.1 ≠ call) } []
  | letIn {call : CallId} {job : Job} {rest : List (CallId × Job)} :
      scheduler.isOpen = true → scheduler.slot? = none → scheduler.waiting = (call, job) :: rest →
      Move scheduler .letIn { scheduler with slot? := some job, waiting := rest }
        [.returned call job .queued]
  | refused {call : CallId} {job : Job} {rest : List (CallId × Job)} :
      scheduler.isOpen = false → scheduler.waiting = (call, job) :: rest →
      Move scheduler .refuse { scheduler with waiting := rest }
        [.returned call job (.closed setup.kind)]
  | started {cancelled : Bool} :
      scheduler.lifecycle = .idle →
      Move scheduler (.start cancelled)
        { scheduler with lifecycle := .running, cancelled, worker := .listening } []
  | startedAgain {cancelled : Bool} :
      scheduler.lifecycle ≠ .idle → Move scheduler (.start cancelled) scheduler []
  | unheard : scheduler.lifecycle = .idle → Move scheduler .cancel scheduler []
  | cancelled :
      scheduler.lifecycle ≠ .idle →
      Move scheduler .cancel { scheduler with cancelled := true } []
  | closedIdle {call : CallId} :
      scheduler.lifecycle = .idle →
      Move scheduler (.close call) { scheduler.halted with lifecycle := .closed }
        (scheduler.discarded ++ [.closeReturned call])
  | closing {call : CallId} :
      scheduler.lifecycle = .running →
      Move scheduler (.close call)
        { scheduler with
          lifecycle := .closed
          cancelled := true
          closers := scheduler.closers ++ [call] } []
  | closedAgain {call : CallId} :
      scheduler.lifecycle = .closed →
      Move scheduler (.close call) scheduler [.closeReturned call]
  | closeReturned {call : CallId} :
      scheduler.worker = .stopped → call ∈ scheduler.closers →
      Move scheduler (.finishClose call)
        { scheduler with closers := scheduler.closers.filter (· ≠ call) } [.closeReturned call]
  | took {job : Job} :
      scheduler.worker = .listening → scheduler.slot? = some job →
      Move scheduler .take
        { scheduler with worker := .executing job (setup.execute job), slot? := none } [.took job]
  | progressed {job : Job} {query : Query} {next : Answer query → Program Query Answer Ending}
      {answer : Answer query} :
      scheduler.worker = .executing job (.ask query next) →
      Move scheduler (.progress ⟨query, answer⟩)
        { scheduler with worker := .executing job (next answer) } []
  | ended {job : Job} {ending : Ending} :
      scheduler.worker = .executing job (.done ending) → ending ≠ .panicked →
      Move scheduler .finish
        { scheduler with worker := .listening, tally := recordEnding scheduler.tally ending }
        [.ended job ending]
  | died {job : Job} :
      scheduler.worker = .executing job (.done .panicked) →
      Move scheduler .finish scheduler.halted (.ended job .panicked :: scheduler.discarded)
  | stopped :
      scheduler.cancelled = true → scheduler.worker = .listening →
      Move scheduler .stop scheduler.halted scheduler.discarded
  /-- The worker stops in the middle of an execution. -/
  | interrupted {job : Job} {rest : Program Query Answer Ending} :
      scheduler.cancelled = true → scheduler.worker = .executing job rest →
      Move scheduler .stop scheduler.halted (.abandoned job :: scheduler.discarded)

end

variable {setup : Setup Job Query Answer} {scheduler middle last : Scheduler Job Query Answer}
  {action : Action Job Query Answer} {actions later : List (Action Job Query Answer)}
  {shown past : List (Event Job)}

theorem isOpen_eq_false : scheduler.isOpen = false ↔ scheduler.worker = .stopped := by
  unfold isOpen Worker.isStopped
  split <;> simp_all

theorem isOpen_eq_true : scheduler.isOpen = true ↔ scheduler.worker ≠ .stopped := by
  rw [← Bool.not_eq_false, isOpen_eq_false]

section
variable [DecidableEq Query]

theorem Move.of_step? (stepped : step? setup scheduler action = some (last, shown)) :
    Move setup scheduler action last shown := by
  -- each function branches just as its moves do
  cases action with
  | schedule call job =>
    have same : schedule setup call job scheduler = (last, shown) := Option.some.inj stepped
    unfold schedule at same
    split at same
    · rename_i closed
      cases same
      exact .turnedAway (by simpa using closed)
    · rename_i live
      have live : scheduler.isOpen = true := by simpa using live
      split at same
      · rename_i policy
        split at same
        · rename_i free
          simp only [Bool.and_eq_true, Option.isNone_iff_eq_none, List.isEmpty_iff] at free
          cases same
          exact .admitted live free.1 fun _ => free.2
        · rename_i busy
          simp only [Bool.and_eq_true, Option.isNone_iff_eq_none, List.isEmpty_iff,
            not_and] at busy
          cases same
          exact .queuedUp live policy busy
      · rename_i policy
        split at same
        · rename_i free
          cases same
          exact .admitted live (by simpa using free) fun block => by simp [policy] at block
        · rename_i busy
          obtain ⟨other, taken⟩ : ∃ other, scheduler.slot? = some other :=
            Option.ne_none_iff_exists'.1 (by simpa using busy)
          cases same
          exact .dropped live policy taken
  | giveUp call => cases stepped; exact .givenUp
  | letIn =>
    have same : letIn? scheduler = some (last, shown) := stepped
    unfold letIn? at same
    split at same
    · rename_i free waiting
      split at same
      · rename_i live; cases same; exact .letIn live free waiting
      · cases same
    · cases same
  | refuse =>
    have same : refuse? setup scheduler = some (last, shown) := stepped
    unfold refuse? at same
    split at same
    · rename_i waiting
      split at same
      · cases same
      · rename_i closed; cases same; exact .refused (by simpa using closed) waiting
    · cases same
  | start cancelled =>
    have same : (start cancelled scheduler, []) = (last, shown) := Option.some.inj stepped
    unfold start at same
    split at same
    · rename_i idle; cases same; exact .started idle
    · rename_i begun; cases same; exact .startedAgain begun
  | cancel =>
    have same : (cancel scheduler, []) = (last, shown) := Option.some.inj stepped
    unfold cancel at same
    split at same
    · rename_i idle; cases same; exact .unheard idle
    · rename_i begun; cases same; exact .cancelled begun
  | close call =>
    have same : close call scheduler = (last, shown) := Option.some.inj stepped
    unfold close at same
    split at same
    · rename_i idle; cases same; exact .closedIdle idle
    · rename_i running; cases same; exact .closing running
    · rename_i closed; cases same; exact .closedAgain closed
  | finishClose call =>
    have same : finishClose? call scheduler = some (last, shown) := stepped
    unfold finishClose? at same
    split at same
    · rename_i done
      simp only [Bool.and_eq_true, List.contains_iff_mem] at done
      cases same
      refine .closeReturned (isOpen_eq_false.1 ?_) done.2
      simp [isOpen, done.1]
    · cases same
  | take =>
    have same : take? setup scheduler = some (last, shown) := stepped
    unfold take? at same
    split at same
    · rename_i listening waiting; cases same; exact .took listening waiting
    · cases same
  | progress exchange =>
    have same : progress? exchange scheduler = some (last, shown) := stepped
    unfold progress? at same
    split at same
    · rename_i job program executing
      obtain ⟨after, resumed, moved⟩ := Option.map_eq_some_iff.1 same
      obtain ⟨next, rfl, rfl⟩ := Program.resume_eq_some.1 resumed
      cases moved
      exact .progressed executing
    · cases same
  | finish =>
    have same : finish? scheduler = some (last, shown) := stepped
    unfold finish? at same
    split at same
    · rename_i executing; cases same; exact .died executing
    · rename_i survived executing
      cases same
      exact .ended executing survived
    · cases same
  | stop =>
    have same : stop? scheduler = some (last, shown) := stepped
    unfold stop? at same
    simp only at same
    split at same
    · rename_i told listening; cases same; exact .stopped told listening
    · rename_i told executing; cases same; exact .interrupted told executing
    · cases same

theorem step?_eq_some_iff :
    step? setup scheduler action = some (last, shown) ↔
      Move setup scheduler action last shown := by
  refine ⟨Move.of_step?, fun move => ?_⟩
  -- what a move asks for enables the step
  cases move with
  | turnedAway closed => simp [step?, schedule, closed]
  | admitted live free overtakes =>
    cases policy : setup.policy with
    | block => simp [step?, schedule, live, free, policy, overtakes policy]
    | dropIfBusy => simp [step?, schedule, live, free, policy]
  | queuedUp live policy busy => simpa [step?, schedule, live, policy] using busy
  | dropped live policy taken => simp [step?, schedule, live, policy, taken]
  | givenUp => rfl
  | letIn live free waiting => simp [step?, letIn?, live, free, waiting]
  | refused closed waiting => simp [step?, refuse?, closed, waiting]
  | started idle => simp [step?, start, idle]
  | startedAgain begun => simp [step?, start]
  | unheard idle => simp [step?, cancel, idle]
  | cancelled begun => simp [step?, cancel]
  | closedIdle idle => simp [step?, close, idle, halted]
  | closing running => simp [step?, close, running]
  | closedAgain closed => simp [step?, close, closed]
  | closeReturned stopped mem => simp [step?, finishClose?, stopped, Worker.isStopped, mem]
  | took listening waiting => simp [step?, take?, listening, waiting]
  | progressed executing => simp [step?, progress?, executing]
  | @ended job ending executing survived =>
    -- the step tells a worker that died by its ending
    cases ending with
    | panicked => exact absurd rfl survived
    | _ => simp [step?, finish?, executing]
  | died executing => simp [step?, finish?, executing, halted]
  | stopped told listening => simp [step?, stop?, told, listening, halted]
  | interrupted told executing => simp [step?, stop?, told, executing, halted]

/-! ## Sequences of actions -/

theorem run?_cons :
    run? setup scheduler (action :: later) = some (last, shown) ↔
      ∃ middle own rest, Move setup scheduler action middle own ∧
        run? setup middle later = some (last, rest) ∧ shown = own ++ rest := by
  simp only [run?, Option.bind_eq_bind, Option.bind_eq_some_iff, Option.some.injEq, Prod.mk.injEq]
  constructor
  · rintro ⟨⟨middle, own⟩, stepped, ⟨_, rest⟩, onward, rfl, rfl⟩
    exact ⟨middle, own, rest, step?_eq_some_iff.1 stepped, onward, rfl⟩
  · rintro ⟨middle, own, rest, move, onward, rfl⟩
    exact ⟨(middle, own), step?_eq_some_iff.2 move, (last, rest), onward, rfl, rfl⟩

theorem run?_append :
    run? setup scheduler (actions ++ later) = some (last, shown) ↔
      ∃ middle first second, run? setup scheduler actions = some (middle, first) ∧
        run? setup middle later = some (last, second) ∧ shown = first ++ second := by
  induction actions generalizing scheduler shown with
  | nil => simp [run?]
  | cons action rest ih =>
    rw [List.cons_append, run?_cons]
    constructor
    · rintro ⟨next, own, _, move, onward, rfl⟩
      obtain ⟨middle, first, second, before, after, rfl⟩ := ih.1 onward
      refine ⟨middle, own ++ first, second, run?_cons.2 ⟨next, own, first, move, before, rfl⟩,
        after, (List.append_assoc ..).symm⟩
    · rintro ⟨middle, first, second, before, after, rfl⟩
      obtain ⟨next, own, rest, move, onward, rfl⟩ := run?_cons.1 before
      exact ⟨next, own, rest ++ second, move, ih.2 ⟨middle, rest, second, onward, after, rfl⟩,
        List.append_assoc ..⟩

theorem run?_singleton :
    run? setup scheduler [action] = some (last, shown) ↔
      Move setup scheduler action last shown := by
  rw [run?_cons]
  constructor
  · rintro ⟨_, own, _, move, done, rfl⟩
    cases done
    rwa [List.append_nil]
  · intro move
    exact ⟨last, shown, [], move, rfl, (List.append_nil _).symm⟩

/-- What holds at first and is kept by every move holds after every sequence of actions. -/
theorem run_induction
    (holds : List (Action Job Query Answer) → Scheduler Job Query Answer → List (Event Job) → Prop)
    (start : holds [] scheduler [])
    (moves : ∀ actions middle past action last shown,
      run? setup scheduler actions = some (middle, past) → holds actions middle past →
      Move setup middle action last shown → holds (actions ++ [action]) last (past ++ shown))
    (run : run? setup scheduler actions = some (last, shown)) : holds actions last shown := by
  -- the induction is on the last action, so that `holds` can speak of everything before
  induction actions using List.reverseRecOn generalizing last shown with
  | nil =>
    cases run
    exact start
  | append_singleton actions action ih =>
    obtain ⟨middle, past, own, before, after, rfl⟩ := run?_append.1 run
    exact moves actions middle past action last own before (ih before) (run?_singleton.1 after)

end

end ChallengeGame.Scheduler
