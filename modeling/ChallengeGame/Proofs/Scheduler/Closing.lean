import ChallengeGame.Proofs.Scheduler.Counts
import ChallengeGame.Proofs.Scheduler.Flow

/-!
# Closing a scheduler

A call that closes a scheduler returns when the worker has stopped, unless it overlaps with
another one: a call that finds the scheduler closed already does not wait. So of calls that
do not overlap, whichever returns finds the worker stopped, and a worker that stopped never
goes on. Jobs that were not finished by then are never counted, and calls are refused.
-/

namespace ChallengeGame.Scheduler

variable {Job Query : Type} {Answer : Query → Type} {setup : Setup Job Query Answer}
  {scheduler last : Scheduler Job Query Answer} {action : Action Job Query Answer}
  {actions later : List (Action Job Query Answer)} {past shown fresh : List (Event Job)}

/-! ## Until a call returns -/

/-- What is known of the calls that close a scheduler if they do not overlap. -/
structure Closing (scheduler : Scheduler Job Query Answer) (past : List (Event Job)) : Prop where
  waited : scheduler.lifecycle ≠ .closed → scheduler.closers = []
  awaited : scheduler.lifecycle = .closed → scheduler.worker ≠ .stopped → scheduler.closers ≠ []
  returned : ∀ call, .closeReturned call ∈ past →
    scheduler.lifecycle = .closed ∧ scheduler.worker = .stopped

theorem closing_new : Closing (new : Scheduler Job Query Answer) [] where
  waited _ := rfl
  awaited closed := by cases closed
  returned _ mem := by cases mem

theorem Closing.keep (closing : Closing scheduler past)
    (quiet : ∀ call, .closeReturned call ∉ shown) (lifecycle : last.lifecycle = scheduler.lifecycle)
    (closers : last.closers = scheduler.closers)
    (stays : scheduler.worker = .stopped → last.worker = .stopped) :
    Closing last (past ++ shown) := by
  constructor
  case waited =>
    rw [lifecycle, closers]
    exact closing.waited
  case awaited =>
    intro closed going
    rw [closers]
    exact closing.awaited (lifecycle ▸ closed) fun stopped => going (stays stopped)
  case returned =>
    intro call mem
    rcases List.mem_append.1 mem with old | own
    · obtain ⟨closed, stopped⟩ := closing.returned call old
      exact ⟨lifecycle.trans closed, stays stopped⟩
    · exact absurd own (quiet call)

theorem Closing.of_stopped (closed : last.lifecycle = .closed) (stopped : last.worker = .stopped) :
    Closing last past where
  waited going := absurd closed going
  awaited _ going := absurd stopped going
  returned _ _ := ⟨closed, stopped⟩

theorem Closing.unreturned (closing : Closing scheduler past)
    (going : scheduler.lifecycle ≠ .closed) (call : CallId) : .closeReturned call ∉ past :=
  fun mem => going (closing.returned call mem).1

theorem Move.keepsClosing (move : Move setup scheduler action last shown)
    (apart : ∀ call, action = .close call → scheduler.closers = [])
    (closing : Closing scheduler past) : Closing last (past ++ shown) := by
  cases move with
  | turnedAway _ | admitted _ _ _ | queuedUp _ _ _ | dropped _ _ _ | givenUp | letIn _ _ _
  | refused _ _ | startedAgain _ | unheard _ | cancelled _ =>
    exact closing.keep (by simp) rfl rfl id
  | started idle =>
    have going : scheduler.lifecycle ≠ .closed := by simp [idle]
    rw [List.append_nil]
    constructor
    case waited => exact fun _ => closing.waited going
    case awaited => intro closed; cases closed
    case returned => intro call mem; exact absurd mem (closing.unreturned going call)
  | closedIdle _ => exact .of_stopped rfl rfl
  | closing running =>
    have going : scheduler.lifecycle ≠ .closed := by simp [running]
    rw [List.append_nil]
    constructor
    case waited => exact fun open_ => absurd rfl open_
    case awaited => intro _ _; simp
    case returned => intro call mem; exact absurd mem (closing.unreturned going call)
  | closedAgain closed =>
    -- the call before has returned, so the worker has stopped
    refine .of_stopped closed ?_
    by_contra going
    exact closing.awaited closed going (apart _ rfl)
  | closeReturned stopped mem =>
    -- nobody waits for the worker of a scheduler that is not closed
    refine .of_stopped ?_ stopped
    by_contra going
    rw [closing.waited going] at mem
    cases mem
  | took listening _ =>
    exact closing.keep (by simp) rfl rfl fun stopped => by simp [listening] at stopped
  | progressed executing | ended executing _ =>
    exact closing.keep (by simp) rfl rfl fun stopped => by simp [executing] at stopped
  | died _ | stopped _ _ | interrupted _ _ =>
    exact closing.keep (by simp [discarded]) rfl rfl fun _ => rfl

/-! ## After a call returned -/

/-- What only a worker does. -/
def Action.isWork : Action Job Query Answer → Bool
  | .take | .progress _ | .finish | .stop => true
  | _ => false

/-- What a call learns after the scheduler was closed. -/
inductive Late (setup : Setup Job Query Answer) : Event Job → Prop where
  | refused (call : CallId) (job : Job) : Late setup (.returned call job (.closed setup.kind))
  | closeReturned (call : CallId) : Late setup (.closeReturned call)

theorem Move.afterClose (move : Move setup scheduler action last shown)
    (closed : scheduler.lifecycle = .closed) (stopped : scheduler.worker = .stopped) :
    last.lifecycle = .closed ∧ last.worker = .stopped ∧ action.isWork = false ∧
      ∀ event ∈ shown, Late setup event := by
  have shut : scheduler.isOpen = false := isOpen_eq_false.2 stopped
  cases move with
  | turnedAway _ => exact ⟨closed, stopped, rfl, by simpa using .refused _ _⟩
  | refused _ _ => exact ⟨closed, stopped, rfl, by simpa using .refused _ _⟩
  | closedAgain _ => exact ⟨closed, stopped, rfl, by simpa using .closeReturned _⟩
  | closeReturned _ _ => exact ⟨closed, stopped, rfl, by simpa using .closeReturned _⟩
  | givenUp | startedAgain _ | unheard _ | cancelled _ =>
    exact ⟨closed, stopped, rfl, by simp⟩
  -- the others need an open mailbox, a scheduler that is not closed, or a worker
  | admitted live _ _ | queuedUp live _ _ | dropped live _ _ | letIn live _ _ =>
    rw [shut] at live; cases live
  | started idle | closedIdle idle => rw [closed] at idle; cases idle
  | closing running => rw [closed] at running; cases running
  | took listening _ | stopped _ listening => rw [stopped] at listening; cases listening
  | progressed executing | ended executing _ | died executing | interrupted _ executing =>
    rw [stopped] at executing; cases executing

theorem recorded_late (late : ∀ event ∈ shown, Late setup event) : recorded shown = [] := by
  rw [recorded, List.filterMap_eq_nil_iff]
  intro event mem
  cases late event mem <;> rfl

/-! ## Sequences of actions -/

variable [DecidableEq Query]

/-- No call closes a fresh scheduler while another one waits for its worker to stop. -/
def ClosesApart (setup : Setup Job Query Answer) (actions : List (Action Job Query Answer)) :
    Prop :=
  ∀ before call after middle shown, actions = before ++ .close call :: after →
    run? setup new before = some (middle, shown) → middle.closers = []

theorem ClosesApart.earlier (apart : ClosesApart setup (actions ++ later)) :
    ClosesApart setup actions := by
  rintro before call after middle shown rfl run
  refine apart before call (after ++ later) middle shown ?_ run
  simp

theorem run_closing (apart : ClosesApart setup actions)
    (run : run? setup new actions = some (scheduler, past)) : Closing scheduler past := by
  refine run_induction (fun actions scheduler past =>
    ClosesApart setup actions → Closing scheduler past) ?_ ?_ run apart
  · exact fun _ => closing_new
  · intro actions middle past action last shown before ih move apart
    refine move.keepsClosing (fun call closes => ?_) (ih apart.earlier)
    exact apart actions call [] middle past (by rw [closes]) before

theorem run_afterClose (run : run? setup scheduler later = some (last, fresh))
    (closed : scheduler.lifecycle = .closed) (stopped : scheduler.worker = .stopped) :
    last.lifecycle = .closed ∧ last.worker = .stopped ∧
      (∀ action ∈ later, action.isWork = false) ∧ ∀ event ∈ fresh, Late setup event := by
  induction later generalizing scheduler fresh with
  | nil => cases run; exact ⟨closed, stopped, by simp, by simp⟩
  | cons action rest ih =>
    obtain ⟨middle, own, more, move, onward, rfl⟩ := run?_cons.1 run
    obtain ⟨closed, stopped, idle, late⟩ := move.afterClose closed stopped
    obtain ⟨closed, stopped, idler, later⟩ := ih onward closed stopped
    refine ⟨closed, stopped, List.forall_mem_cons.2 ⟨idle, idler⟩, fun event mem => ?_⟩
    exact (List.mem_append.1 mem).elim (late event) (later event)

theorem run?_refuse (shut : scheduler.isOpen = false) :
    run? setup scheduler (List.replicate scheduler.waiting.length .refuse) =
      some ({ scheduler with waiting := [] },
        scheduler.waiting.map fun call => .returned call.1 call.2 (.closed setup.kind)) := by
  rcases scheduler with ⟨lifecycle, cancelled, worker, slot?, waiting, closers, tally⟩
  induction waiting with
  | nil => rfl
  | cons first rest ih =>
    rw [List.length_cons, List.replicate_succ]
    exact run?_cons.2 ⟨_, _, _, .refused shut rfl, ih shut, rfl⟩

/-- A scheduler after a call that closes it has returned: what was shown until then is `past`,
and `fresh` what is shown during the actions that follow. -/
structure ClosedForGood (setup : Setup Job Query Answer) (past : List (Event Job))
    (later : List (Action Job Query Answer)) (last : Scheduler Job Query Answer)
    (fresh : List (Event Job)) : Prop where
  /-- The worker did nothing since the call returned, -/
  idle : ∀ action ∈ later, action.isWork = false
  /-- nor could it do anything now. -/
  stopped : ∀ action : Action Job Query Answer, action.isWork = true →
    step? setup last action = none
  /-- The jobs that were taken are those that were finished and one that was broken off. -/
  executions : taken past = (finished past).map Prod.fst ++ brokenOff past
  /-- The other accepted job was left behind. -/
  jobs : accepted past = taken past ++ leftBehind past
  /-- Nothing is counted but how executions were finished, and what was dropped before. -/
  counted : ∀ result, last.tally.count result = (recorded past).count result
  /-- Nothing is shown but calls that are refused, and calls to close that return. -/
  late : ∀ event ∈ fresh, Late setup event
  /-- Whoever still waits can only be refused, -/
  waiting : run? setup last (List.replicate last.waiting.length .refuse) =
    some ({ last with waiting := [] },
      last.waiting.map fun call => .returned call.1 call.2 (.closed setup.kind))
  /-- and so is whoever comes now. -/
  refused : ∀ call job,
    step? setup last (.schedule call job) = some (last, [.returned call job (.closed setup.kind)])
  /-- Starting again changes nothing. -/
  start : ∀ cancelled, step? setup last (.start cancelled) = some (last, [])

/-- Once a call that closes a scheduler has returned, nothing is carried out any more, whatever
else happens, if the calls to close it did not overlap until then. -/
theorem closed_for_good {call : CallId} (apart : ClosesApart setup actions)
    (run : run? setup new actions = some (scheduler, past)) (returned : .closeReturned call ∈ past)
    (onward : run? setup scheduler later = some (last, fresh)) :
    ClosedForGood setup past later last fresh := by
  have flow := run_flow run
  obtain ⟨closed, stopped⟩ := (run_closing apart run).returned call returned
  obtain ⟨stillClosed, stillStopped, idle, late⟩ := run_afterClose onward closed stopped
  have shut : last.isOpen = false := isOpen_eq_false.2 stillStopped
  constructor
  case idle => exact idle
  case stopped =>
    intro action work
    -- a step of the worker would be a move after the end
    cases stepped : step? setup last action with
    | none => rfl
    | some after =>
      obtain ⟨_, _, idle, _⟩ := (step?_eq_some_iff.1 stepped).afterClose stillClosed stillStopped
      rw [idle] at work
      cases work
  case executions =>
    rw [flow.work, stopped]
    simp
  case jobs =>
    rw [flow.slot, flow.stopped stopped]
    exact List.append_nil _
  case counted =>
    intro result
    rw [run_count_tally onward, run_count_tally run, recorded_late late]
    cases result <;> exact Nat.zero_add _
  case late => exact late
  case waiting => exact run?_refuse shut
  case refused => exact fun call job => step?_eq_some_iff.2 (.turnedAway shut)
  case start => exact fun cancelled => step?_eq_some_iff.2 (.startedAgain (by simp [stillClosed]))

def Sample.blocking : Setup Nat Unit (fun _ => Unit) :=
  ⟨.challenge, .block, fun _ => .ask () fun _ => .done .submitted⟩

/-- The scheduler is closed while job 7 is carried out, job 8 is in the slot and job 9 waits. -/
def Sample.closing : List (Action Nat Unit fun _ => Unit) :=
  [.schedule 1 7, .start false, .take, .schedule 2 8, .schedule 3 9, .close 4, .stop,
    .finishClose 4]

def Sample.closed : Scheduler Nat Unit (fun _ => Unit) :=
  ⟨.closed, true, .stopped, none, [(3, 9)], [], ⟨0, 0, 0, 0⟩⟩

def Sample.closingShown : List (Event Nat) :=
  [.returned 1 7 .queued, .took 7, .returned 2 8 .queued, .abandoned 7, .discarded 8,
    .closeReturned 4]

theorem Sample.closing_apart : ClosesApart Sample.blocking Sample.closing := by
  intro before call after middle shown split run
  obtain ⟨rfl, _⟩ : before = [.schedule 1 7, .start false, .take, .schedule 2 8, .schedule 3 9] ∧
      call = 4 ∧ after = [.stop, .finishClose 4] := by
    simpa [Sample.closing, List.cons_eq_append_iff] using split
  cases run
  rfl

/-- What follows: job 9 is refused, and so is another call after the worker was started again. -/
def Sample.closedLater : List (Action Nat Unit fun _ => Unit) :=
  [.refuse, .start false, .schedule 5 10]

def Sample.closedFresh : List (Event Nat) :=
  [.returned 3 9 (.closed .challenge), .returned 5 10 (.closed .challenge)]

theorem closed_for_good_sample :
    run? Sample.blocking new Sample.closing = some (Sample.closed, Sample.closingShown) ∧
      run? Sample.blocking Sample.closed Sample.closedLater =
        some ({ Sample.closed with waiting := [] }, Sample.closedFresh) ∧
      ClosedForGood Sample.blocking Sample.closingShown Sample.closedLater
        { Sample.closed with waiting := [] } Sample.closedFresh := by
  have run : run? Sample.blocking new Sample.closing =
    some (Sample.closed, Sample.closingShown) := rfl
  have onward : run? Sample.blocking Sample.closed Sample.closedLater =
    some ({ Sample.closed with waiting := [] }, Sample.closedFresh) := rfl
  have returned : .closeReturned 4 ∈ Sample.closingShown := by decide
  exact ⟨run, onward, closed_for_good Sample.closing_apart run returned onward⟩

end ChallengeGame.Scheduler
