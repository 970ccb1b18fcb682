import ChallengeGame.Proofs.Scheduler.Counts
import ChallengeGame.Proofs.Scheduler.Flow

/-!
# The account of a scheduler

Every accepted job is in one place at a time: counted by the way its execution ended, under way,
in the slot, or lost when the worker stopped. So the numbers of all these add up to the number of
calls that were told that their job is queued. Nothing else is counted, and how an execution
ended makes no difference to the jobs after it.
-/

namespace ChallengeGame

namespace Tally

theorem ext_count {tally other : Tally} (same : ∀ result, tally.count result = other.count result) :
    tally = other := by
  obtain ⟨succeeded, skipped, failed, dropped⟩ := tally
  obtain ⟨succeeded', skipped', failed', dropped'⟩ := other
  have s : succeeded = succeeded' := same .succeeded
  have k : skipped = skipped' := same .skipped
  have f : failed = failed' := same .failed
  have d : dropped = dropped' := same .dropped
  subst s k f d
  rfl

end Tally

namespace Metrics

def recordAll (metrics : Metrics) (kind : ActionKind) (results : List ActionResult) : Metrics :=
  results.foldl (fun metrics result => metrics.recordAction kind result) metrics

theorem get_recordAction (metrics : Metrics) (kind other : ActionKind) (result : ActionResult) :
    (metrics.recordAction kind result).actions.get other =
      if other = kind then (metrics.actions.get kind).record result else metrics.actions.get other := by
  unfold recordAction PerKind.modify
  by_cases same : other = kind
  · subst same
    rw [PerKind.get_set_self, if_pos rfl]
  · rw [PerKind.get_set_of_ne _ _ same, if_neg same]

theorem count_recordAll (metrics : Metrics) (kind other : ActionKind) (results : List ActionResult)
    (result : ActionResult) :
    ((metrics.recordAll kind results).actions.get other).count result =
      (metrics.actions.get other).count result + if other = kind then results.count result else 0 := by
  induction results generalizing metrics with
  | nil => simp [recordAll]
  | cons first rest ih =>
    have step : metrics.recordAll kind (first :: rest) =
      (metrics.recordAction kind first).recordAll kind rest := rfl
    rw [step, ih, get_recordAction]
    by_cases same : other = kind
    · subst same
      simp only [if_true, Tally.count_record, List.count_cons, beq_iff_eq]
      omega
    · simp [same]

end Metrics

namespace Scheduler

variable {Job Query : Type} {Answer : Query → Type} {setup : Setup Job Query Answer}
  {scheduler last : Scheduler Job Query Answer} {action : Action Job Query Answer}
  {actions : List (Action Job Query Answer)} {past shown : List (Event Job)}

/-! ## Numbers of events -/

def ends (ending : Ending) (shown : List (Event Job)) : Nat :=
  ((finished shown).map Prod.snd).count ending

def drops (shown : List (Event Job)) : Nat :=
  shown.countP fun
    | .returned _ _ .dropped => true
    | _ => false

/-- How often that happened which a result stands for. -/
def occurred (shown : List (Event Job)) : ActionResult → Nat
  | .succeeded => ends .submitted shown
  | .skipped => ends .skipped shown
  | .failed => ends .failed shown
  | .dropped => drops shown

theorem occurred_append (first second : List (Event Job)) (result : ActionResult) :
    occurred (first ++ second) result = occurred first result + occurred second result := by
  have joined (ending : Ending) :
      ends ending (first ++ second) = ends ending first + ends ending second := by
    rw [ends, finished_append, List.map_append, List.count_append, ends, ends]
  cases result with
  | succeeded => exact joined .submitted
  | skipped => exact joined .skipped
  | failed => exact joined .failed
  | dropped => exact List.countP_append

theorem count_recorded (shown : List (Event Job)) (result : ActionResult) :
    (recorded shown).count result = occurred shown result := by
  induction shown with
  | nil => cases result <;> rfl
  | cons event rest ih =>
    -- an event stands for one result at most
    have own : (recorded [event]).count result = occurred [event] result := by
      cases event with
      | returned call job answer => cases answer <;> cases result <;> rfl
      | ended job ending => cases ending <;> cases result <;> rfl
      | took | abandoned | discarded | closeReturned => cases result <;> rfl
    rw [← List.singleton_append, recorded_append, List.count_append, own, ih, occurred_append]

theorem length_finished (shown : List (Event Job)) :
    (finished shown).length = ends .submitted shown + ends .skipped shown + ends .failed shown +
      ends .panicked shown := by
  unfold ends
  induction finished shown with
  | nil => rfl
  | cons ended rest ih =>
    obtain ⟨job, ending⟩ := ended
    cases ending <;> simp [ih] <;> omega

/-! ## Where the jobs are -/

theorem Flow.length_accepted (flow : Flow setup scheduler past) :
    (accepted past).length = (finished past).length + scheduler.worker.job?.toList.length +
      scheduler.slot?.toList.length + ((brokenOff past).length + (leftBehind past).length) := by
  rw [flow.slot, flow.work]
  simp only [List.length_append, List.length_map]
  omega

/-- Why a worker has stopped. -/
def Halted (scheduler : Scheduler Job Query Answer) (past : List (Event Job)) : Prop :=
  scheduler.cancelled = true ∨ scheduler.lifecycle = .closed ∨ ∃ job, .ended job .panicked ∈ past

theorem Move.halted (move : Move setup scheduler action last shown)
    (before : scheduler.worker = .stopped → Halted scheduler past)
    (stopped : last.worker = .stopped) : Halted last (past ++ shown) := by
  have keep (same : scheduler.worker = .stopped) (cancelled : scheduler.cancelled = true →
      last.cancelled = true) (closed : scheduler.lifecycle = .closed → last.lifecycle = .closed) :
      Halted last (past ++ shown) := by
    rcases before same with told | done | ⟨job, panicked⟩
    · exact .inl (cancelled told)
    · exact .inr (.inl (closed done))
    · exact .inr (.inr ⟨job, List.mem_append_left _ panicked⟩)
  cases move with
  | started _ => cases stopped
  | took _ _ => cases stopped
  | progressed _ => cases stopped
  | ended _ _ => cases stopped
  | cancelled _ => exact .inl rfl
  | closedIdle _ => exact .inr (.inl rfl)
  | closing _ => exact .inr (.inl rfl)
  | @died job _ =>
    have own : .ended job .panicked ∈ Event.ended job .panicked :: scheduler.discarded :=
      List.mem_cons_self
    exact .inr (.inr ⟨job, List.mem_append_right _ own⟩)
  | stopped told _ => exact .inl told
  | interrupted told _ => exact .inl told
  | turnedAway _ | admitted _ _ _ | queuedUp _ _ _ | dropped _ _ _ | givenUp | letIn _ _ _
  | refused _ _ | startedAgain _ | unheard _ | closedAgain _ | closeReturned _ _ =>
    exact keep stopped id id

/-- A move counts one thing at most, and only an execution that came to its end or a job that
was dropped. -/
theorem Move.tally (move : Move setup scheduler action last shown) :
    last.tally = scheduler.tally ∨
      ∃ result, last.tally = scheduler.tally.record result ∧
        ((∃ job ending, shown = [.ended job ending] ∧ ending.result? = some result) ∨
          result = .dropped ∧ ∃ call job, shown = [.returned call job .dropped]) := by
  cases move with
  | dropped _ _ _ => exact .inr ⟨.dropped, rfl, .inr ⟨rfl, _, _, rfl⟩⟩
  | @ended job ending _ survived =>
    cases ending with
    | submitted => exact .inr ⟨.succeeded, rfl, .inl ⟨_, _, rfl, rfl⟩⟩
    | skipped => exact .inr ⟨.skipped, rfl, .inl ⟨_, _, rfl, rfl⟩⟩
    | failed => exact .inr ⟨.failed, rfl, .inl ⟨_, _, rfl, rfl⟩⟩
    | panicked => exact absurd rfl survived
  | _ => exact .inl rfl

/-! ## The account -/

variable [DecidableEq Query]

/-- The account of a scheduler at one moment. -/
structure Account (setup : Setup Job Query Answer) (scheduler : Scheduler Job Query Answer)
    (past : List (Event Job)) : Prop where
  /-- The tally says how executions ended, and how many jobs were dropped, -/
  tally : scheduler.tally =
    ⟨ends .submitted past, ends .skipped past, ends .failed past, drops past⟩
  /-- and it is what the metrics say of this kind of action, and they say nothing of the others. -/
  metrics : ∀ kind, (Metrics.new.recordAll setup.kind (recorded past)).actions.get kind =
    if kind = setup.kind then scheduler.tally else Tally.zero
  /-- If every execution that ended has a result, each queued job is counted, under way, in the
  slot, or was abandoned. -/
  balance : (∀ job, .ended job .panicked ∉ past) →
    (accepted past).length =
      scheduler.tally.succeeded + scheduler.tally.skipped + scheduler.tally.failed +
        scheduler.worker.job?.toList.length + scheduler.slot?.toList.length +
        ((brokenOff past).length + (leftBehind past).length)
  /-- Only one execution can be without a result, because the worker does not survive it. -/
  panicked : (accepted past).length =
      scheduler.tally.succeeded + scheduler.tally.skipped + scheduler.tally.failed +
        scheduler.worker.job?.toList.length + scheduler.slot?.toList.length +
        ((brokenOff past).length + (leftBehind past).length) + ends .panicked past
  /-- A worker stops only if it is told to, or does not survive an execution, -/
  halted : scheduler.worker = .stopped → Halted scheduler past
  /-- and only then are jobs abandoned. -/
  abandoned : scheduler.worker ≠ .stopped → brokenOff past = [] ∧ leftBehind past = []
  /-- Nothing but the result of an execution and a dropped job is ever counted. -/
  counts : ∀ action last shown, step? setup scheduler action = some (last, shown) →
    last.tally = scheduler.tally ∨
      ∃ result, last.tally = scheduler.tally.record result ∧
        ((∃ job ending, shown = [.ended job ending] ∧ ending.result? = some result) ∨
          result = .dropped ∧ ∃ call job, shown = [.returned call job .dropped])
  /-- After an execution the worker listens again, whatever its result, -/
  goes_on : ∀ job ending, scheduler.worker = .executing job (.done ending) → ending ≠ .panicked →
    step? setup scheduler .finish =
      some ({ scheduler with worker := .listening, tally := recordEnding scheduler.tally ending },
        [.ended job ending])
  /-- and takes up the next job that was accepted. -/
  takes_up : ∀ job, scheduler.worker = .listening → scheduler.slot? = some job →
    step? setup scheduler .take =
      some ({ scheduler with worker := .executing job (setup.execute job), slot? := none },
        [.took job])

theorem ends_eq_zero (alive : ∀ job, .ended job .panicked ∉ past) : ends .panicked past = 0 := by
  refine List.count_eq_zero.2 fun mem => ?_
  obtain ⟨⟨job, ending⟩, found, rfl⟩ := List.mem_map.1 mem
  obtain ⟨event, shown, same⟩ := List.mem_filterMap.1 found
  cases event with
  | ended => cases same; exact alive _ shown
  | _ => cases same

theorem run_tally (run : run? setup new actions = some (scheduler, past)) :
    scheduler.tally =
      ⟨ends .submitted past, ends .skipped past, ends .failed past, drops past⟩ := by
  refine Tally.ext_count fun result => ?_
  rw [run_count_tally run, count_recorded]
  cases result <;> exact Nat.zero_add _

theorem run_halted (run : run? setup new actions = some (scheduler, past)) :
    scheduler.worker = .stopped → Halted scheduler past := by
  refine run_induction (fun _ scheduler past => scheduler.worker = .stopped → Halted scheduler past)
    ?_ ?_ run
  · intro stopped; cases stopped
  · intro _ _ _ _ _ _ _ before move
    exact move.halted before

/-- Whatever happens to a fresh scheduler and however its executions end, what it counts and what
it keeps account for every job that was queued. -/
theorem actions_accounted (run : run? setup new actions = some (scheduler, past)) :
    Account setup scheduler past := by
  have flow := run_flow run
  have tally := run_tally run
  have whole := flow.length_accepted
  rw [length_finished] at whole
  -- only `whole` speaks of jobs; the rest are facts about what was shown or about one more move
  constructor
  case tally => exact tally
  case metrics =>
    intro kind
    refine Tally.ext_count fun result => ?_
    rw [Metrics.count_recordAll, tally]
    by_cases same : kind = setup.kind
    · rw [if_pos same, if_pos same, count_recorded]
      cases kind <;> cases result <;> exact Nat.zero_add _
    · rw [if_neg same, if_neg same]
      cases kind <;> rfl
  case balance =>
    intro alive
    rw [ends_eq_zero alive] at whole
    rw [tally]
    exact whole
  case panicked =>
    rw [whole, tally]
    dsimp only
    omega
  case halted => exact run_halted run
  case abandoned => exact fun live => ⟨(flow.live live).2, (flow.live live).1⟩
  case counts => exact fun _ _ _ stepped => (step?_eq_some_iff.1 stepped).tally
  case goes_on => exact fun _ _ done survived => step?_eq_some_iff.2 (.ended done survived)
  case takes_up => exact fun _ listening waiting => step?_eq_some_iff.2 (.took listening waiting)

def Sample.endingOf : Nat → Ending
  | 7 => .failed
  | 8 => .submitted
  | _ => .skipped

def Sample.mixed : Setup Nat Unit (fun _ => Unit) :=
  ⟨.unlock, .dropIfBusy, fun job => .ask () fun _ => .done (Sample.endingOf job)⟩

/-- Job 7 fails and job 8 succeeds, job 9 is dropped meanwhile. Then the scheduler is closed while
job 10 is carried out and job 11 is in the slot, and job 12 comes too late. -/
def Sample.mixedActions : List (Action Nat Unit fun _ => Unit) :=
  [.start false, .schedule 1 7, .take, .schedule 2 8, .schedule 3 9, .progress ⟨(), ()⟩, .finish,
    .take, .progress ⟨(), ()⟩, .finish, .schedule 4 10, .take, .schedule 5 11, .close 6, .stop,
    .finishClose 6, .schedule 7 12]

def Sample.mixedLast : Scheduler Nat Unit (fun _ => Unit) :=
  ⟨.closed, true, .stopped, none, [], [], ⟨1, 0, 1, 1⟩⟩

def Sample.mixedShown : List (Event Nat) :=
  [.returned 1 7 .queued, .took 7, .returned 2 8 .queued, .returned 3 9 .dropped, .ended 7 .failed,
    .took 8, .ended 8 .submitted, .returned 4 10 .queued, .took 10, .returned 5 11 .queued,
    .abandoned 10, .discarded 11, .closeReturned 6, .returned 7 12 (.closed .unlock)]

theorem actions_accounted_sample :
    run? Sample.mixed new Sample.mixedActions = some (Sample.mixedLast, Sample.mixedShown) ∧
      Account Sample.mixed Sample.mixedLast Sample.mixedShown := by
  have run : run? Sample.mixed new Sample.mixedActions =
    some (Sample.mixedLast, Sample.mixedShown) := rfl
  exact ⟨run, actions_accounted run⟩

end Scheduler

end ChallengeGame
