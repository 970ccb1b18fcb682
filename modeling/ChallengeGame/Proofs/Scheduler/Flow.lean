import ChallengeGame.Proofs.Scheduler.Moves

/-!
# The flow of jobs through a mailbox

A job that is accepted goes into the slot, from there to the worker, and from there to its
end. Nothing is turned around on the way: the accepted jobs are those that were taken, then
one that was left behind or still waits, and the jobs that were taken are those that were
carried out, then one that is under way or was broken off. `Flow` is the invariant behind
this; every move keeps it, under both policies.
-/

namespace ChallengeGame.Scheduler

variable {Job Query : Type} {Answer : Query → Type} {setup : Setup Job Query Answer}
  {scheduler last : Scheduler Job Query Answer} {action : Action Job Query Answer}
  {actions : List (Action Job Query Answer)} {past shown final : List (Event Job)}

/-! ## What was shown of the jobs -/

/-- The jobs that went into the slot. -/
def accepted (shown : List (Event Job)) : List Job :=
  shown.filterMap fun
    | .returned _ job .queued => some job
    | _ => none

/-- The jobs that were taken out of the slot to be carried out. -/
def taken (shown : List (Event Job)) : List Job :=
  shown.filterMap fun
    | .took job => some job
    | _ => none

def finished (shown : List (Event Job)) : List (Job × Ending) :=
  shown.filterMap fun
    | .ended job ending => some (job, ending)
    | _ => none

/-- The jobs whose executions were never finished. -/
def brokenOff (shown : List (Event Job)) : List Job :=
  shown.filterMap fun
    | .abandoned job => some job
    | _ => none

/-- The jobs that were still in the slot when the mailbox closed. -/
def leftBehind (shown : List (Event Job)) : List Job :=
  shown.filterMap fun
    | .discarded job => some job
    | _ => none

@[simp] theorem accepted_append (first second : List (Event Job)) :
    accepted (first ++ second) = accepted first ++ accepted second :=
  List.filterMap_append

@[simp] theorem taken_append (first second : List (Event Job)) :
    taken (first ++ second) = taken first ++ taken second :=
  List.filterMap_append

@[simp] theorem finished_append (first second : List (Event Job)) :
    finished (first ++ second) = finished first ++ finished second :=
  List.filterMap_append

@[simp] theorem brokenOff_append (first second : List (Event Job)) :
    brokenOff (first ++ second) = brokenOff first ++ brokenOff second :=
  List.filterMap_append

@[simp] theorem leftBehind_append (first second : List (Event Job)) :
    leftBehind (first ++ second) = leftBehind first ++ leftBehind second :=
  List.filterMap_append

/-- Everything that is shown of the jobs at once. -/
structure Shows (shown : List (Event Job)) (intoSlot out : List Job) (ends : List (Job × Ending))
    (broken left : List Job) : Prop where
  accepted : accepted shown = intoSlot
  taken : taken shown = out
  finished : finished shown = ends
  brokenOff : brokenOff shown = broken
  leftBehind : leftBehind shown = left

theorem shows_discarded :
    Shows scheduler.discarded [] [] [] [] scheduler.slot?.toList := by
  unfold discarded
  cases scheduler.slot? with
  | none => exact ⟨rfl, rfl, rfl, rfl, rfl⟩
  | some job => exact ⟨rfl, rfl, rfl, rfl, rfl⟩

/-! ## The invariant -/

def Worker.job? : Worker Job Query Answer → Option Job
  | executing job _ => some job
  | _ => none

section
variable {job : Job} {rest : Program Query Answer Ending}

@[simp] theorem job?_executing :
    (Worker.executing job rest : Worker Job Query Answer).job? = some job := rfl

@[simp] theorem job?_listening : (Worker.listening : Worker Job Query Answer).job? = none := rfl

@[simp] theorem job?_unstarted : (Worker.unstarted : Worker Job Query Answer).job? = none := rfl

@[simp] theorem job?_stopped : (Worker.stopped : Worker Job Query Answer).job? = none := rfl

end

/-- Every accepted job is in exactly one place. -/
structure Flow (setup : Setup Job Query Answer) (scheduler : Scheduler Job Query Answer)
    (past : List (Event Job)) : Prop where
  slot : accepted past = taken past ++ leftBehind past ++ scheduler.slot?.toList
  work : taken past =
    (finished past).map Prod.fst ++ scheduler.worker.job?.toList ++ brokenOff past
  live : scheduler.worker ≠ .stopped → leftBehind past = [] ∧ brokenOff past = []
  stopped : scheduler.worker = .stopped → scheduler.slot? = none
  leftBehind_le : (leftBehind past).length ≤ 1
  brokenOff_le : (brokenOff past).length ≤ 1
  idle : scheduler.lifecycle = .idle → scheduler.worker = .unstarted
  impatient : setup.policy = .dropIfBusy → scheduler.waiting = []

theorem flow_new : Flow setup new [] where
  slot := rfl
  work := rfl
  live _ := ⟨rfl, rfl⟩
  stopped stopped := by cases stopped
  leftBehind_le := Nat.zero_le _
  brokenOff_le := Nat.zero_le _
  idle _ := rfl
  impatient _ := rfl

theorem Flow.keep (flow : Flow setup scheduler past) (quiet : Shows shown [] [] [] [] [])
    (slot : last.slot? = scheduler.slot?) (job : last.worker.job? = scheduler.worker.job?)
    (stopped : last.worker = .stopped ↔ scheduler.worker = .stopped)
    (idle : last.lifecycle = .idle → last.worker = .unstarted)
    (impatient : setup.policy = .dropIfBusy → last.waiting = []) :
    Flow setup last (past ++ shown) where
  slot := by simp [quiet.accepted, quiet.taken, quiet.leftBehind, slot, flow.slot]
  work := by simp [quiet.taken, quiet.finished, quiet.brokenOff, job, flow.work]
  live live := by
    simpa [quiet.leftBehind, quiet.brokenOff] using flow.live fun halted => live (stopped.2 halted)
  stopped halted := by rw [slot, flow.stopped (stopped.1 halted)]
  leftBehind_le := by simpa [quiet.leftBehind] using flow.leftBehind_le
  brokenOff_le := by simpa [quiet.brokenOff] using flow.brokenOff_le
  idle := idle
  impatient := impatient

theorem Flow.accept {call : CallId} {job : Job} {waiting : List (CallId × Job)}
    (flow : Flow setup scheduler past) (live : scheduler.worker ≠ .stopped)
    (free : scheduler.slot? = none) (impatient : setup.policy = .dropIfBusy → waiting = []) :
    Flow setup { scheduler with slot? := some job, waiting }
      (past ++ [.returned call job .queued]) := by
  have own : Shows [Event.returned call job .queued] [job] [] [] [] [] := ⟨rfl, rfl, rfl, rfl, rfl⟩
  obtain ⟨noneLeft, noneBroken⟩ := flow.live live
  constructor
  case slot =>
    -- nothing else was in the slot, so the job comes last
    have before := flow.slot
    rw [free] at before
    simp [own.accepted, own.taken, own.leftBehind, noneLeft, before]
  case work => simp [own.taken, own.finished, own.brokenOff, flow.work]
  case live => intro _; simp [own.leftBehind, own.brokenOff, noneLeft, noneBroken]
  case stopped => intro halted; exact absurd halted live
  case leftBehind_le => simp [own.leftBehind, noneLeft]
  case brokenOff_le => simp [own.brokenOff, noneBroken]
  case idle => exact flow.idle
  case impatient => exact impatient

theorem Flow.take {job : Job} (flow : Flow setup scheduler past)
    (listening : scheduler.worker = .listening) (waiting : scheduler.slot? = some job) :
    Flow setup { scheduler with worker := .executing job (setup.execute job), slot? := none }
      (past ++ [.took job]) := by
  have own : Shows [Event.took job] [] [job] [] [] [] := ⟨rfl, rfl, rfl, rfl, rfl⟩
  obtain ⟨noneLeft, noneBroken⟩ := flow.live (by simp [listening])
  constructor
  case slot =>
    -- the job leaves the slot for the end of the jobs that were taken
    have before := flow.slot
    rw [waiting] at before
    simp [own.accepted, own.taken, own.leftBehind, noneLeft, before]
  case work =>
    have before := flow.work
    rw [listening] at before
    simp [own.taken, own.finished, own.brokenOff, noneBroken, before]
  case live => intro _; simp [own.leftBehind, own.brokenOff, noneLeft, noneBroken]
  case stopped => intro halted; cases halted
  case leftBehind_le => simp [own.leftBehind, noneLeft]
  case brokenOff_le => simp [own.brokenOff, noneBroken]
  case idle => intro idle; rw [flow.idle idle] at listening; cases listening
  case impatient => exact flow.impatient

theorem Flow.finish {job : Job} {ending : Ending} {tally : Tally}
    (flow : Flow setup scheduler past)
    (executing : scheduler.worker = .executing job (.done ending)) :
    Flow setup { scheduler with worker := .listening, tally } (past ++ [.ended job ending]) := by
  have own : Shows [Event.ended job ending] [] [] [(job, ending)] [] [] :=
    ⟨rfl, rfl, rfl, rfl, rfl⟩
  obtain ⟨noneLeft, noneBroken⟩ := flow.live (by simp [executing])
  constructor
  case slot => simp [own.accepted, own.taken, own.leftBehind, flow.slot]
  case work =>
    -- the job under way becomes the last that was finished
    have before := flow.work
    rw [executing] at before
    simp [own.taken, own.finished, own.brokenOff, noneBroken, before]
  case live => intro _; simp [own.leftBehind, own.brokenOff, noneLeft, noneBroken]
  case stopped => intro halted; cases halted
  case leftBehind_le => simp [own.leftBehind, noneLeft]
  case brokenOff_le => simp [own.brokenOff, noneBroken]
  case idle => intro idle; rw [flow.idle idle] at executing; cases executing
  case impatient => exact flow.impatient

/-- When the worker stops, the job under way comes to its last end, or is broken off, and the
slot is emptied. -/
theorem Flow.halt {ends : List (Job × Ending)} {broken : List Job}
    (flow : Flow setup scheduler past)
    (live : scheduler.worker ≠ .stopped) (own : Shows final [] [] ends broken [])
    (work : scheduler.worker.job?.toList = ends.map Prod.fst ++ broken)
    (halted : last.worker = .stopped) (free : last.slot? = none) (begun : last.lifecycle ≠ .idle)
    (impatient : setup.policy = .dropIfBusy → last.waiting = []) :
    Flow setup last (past ++ (final ++ scheduler.discarded)) := by
  have rest := @shows_discarded _ _ _ scheduler
  obtain ⟨noneLeft, noneBroken⟩ := flow.live live
  constructor
  case slot =>
    have before := flow.slot
    simp [own.accepted, own.taken, own.leftBehind, rest.accepted, rest.taken, rest.leftBehind,
      noneLeft, before, free]
  case work =>
    have before := flow.work
    simp [own.taken, own.finished, own.brokenOff, rest.taken, rest.finished, rest.brokenOff,
      noneBroken, before, halted, work]
  case live => intro going; exact absurd halted going
  case stopped => exact fun _ => free
  case leftBehind_le =>
    simp only [leftBehind_append, own.leftBehind, rest.leftBehind, noneLeft, List.nil_append]
    exact Option.length_toList_le
  case brokenOff_le =>
    -- at most one job was under way
    have one : (ends.map Prod.fst ++ broken).length ≤ 1 := work ▸ Option.length_toList_le
    simp only [brokenOff_append, own.brokenOff, rest.brokenOff, noneBroken, List.nil_append,
      List.append_nil]
    rw [List.length_append] at one
    omega
  case idle => intro idle; exact absurd idle begun
  case impatient => exact impatient

theorem Move.flow (move : Move setup scheduler action last shown)
    (flow : Flow setup scheduler past) : Flow setup last (past ++ shown) := by
  cases move with
  | turnedAway _ => exact flow.keep ⟨rfl, rfl, rfl, rfl, rfl⟩ rfl rfl .rfl flow.idle flow.impatient
  | admitted live free overtakes =>
    exact flow.accept (isOpen_eq_true.1 live) free flow.impatient
  | queuedUp _ policy _ =>
    -- only a mailbox that blocks lets a call wait
    refine flow.keep ⟨rfl, rfl, rfl, rfl, rfl⟩ rfl rfl .rfl flow.idle fun impatient => ?_
    rw [policy] at impatient
    cases impatient
  | dropped _ _ _ => exact flow.keep ⟨rfl, rfl, rfl, rfl, rfl⟩ rfl rfl .rfl flow.idle flow.impatient
  | givenUp =>
    refine flow.keep ⟨rfl, rfl, rfl, rfl, rfl⟩ rfl rfl .rfl flow.idle fun impatient => ?_
    simp [flow.impatient impatient]
  | letIn live free waiting =>
    refine flow.accept (isOpen_eq_true.1 live) free fun impatient => ?_
    rw [flow.impatient impatient] at waiting
    cases waiting
  | refused _ waiting =>
    refine flow.keep ⟨rfl, rfl, rfl, rfl, rfl⟩ rfl rfl .rfl flow.idle fun impatient => ?_
    rw [flow.impatient impatient] at waiting
    cases waiting
  | started idle =>
    have unstarted := flow.idle idle
    refine flow.keep ⟨rfl, rfl, rfl, rfl, rfl⟩ rfl ?_ ?_ (fun idle => by cases idle) flow.impatient
    · rw [unstarted]; rfl
    · simp [unstarted]
  | startedAgain _ | unheard _ | cancelled _ | closedAgain _ | closeReturned _ _ =>
    exact flow.keep ⟨rfl, rfl, rfl, rfl, rfl⟩ rfl rfl .rfl flow.idle flow.impatient
  | closing _ =>
    exact flow.keep ⟨rfl, rfl, rfl, rfl, rfl⟩ rfl rfl .rfl (fun idle => by cases idle)
      flow.impatient
  | closedIdle idle =>
    -- the worker has not started, so only the slot has to be emptied
    have unstarted := flow.idle idle
    have halted : Flow setup { scheduler.halted with lifecycle := .closed }
        (past ++ ([] ++ scheduler.discarded)) :=
      flow.halt (by simp [unstarted]) ⟨rfl, rfl, rfl, rfl, rfl⟩ (by rw [unstarted]; rfl) rfl rfl
        (by simp) flow.impatient
    rw [← List.append_assoc]
    exact halted.keep ⟨rfl, rfl, rfl, rfl, rfl⟩ rfl rfl .rfl halted.idle halted.impatient
  | took listening waiting => exact flow.take listening waiting
  | progressed executing =>
    refine flow.keep ⟨rfl, rfl, rfl, rfl, rfl⟩ rfl ?_ ?_ (fun idle => ?_) flow.impatient
    · rw [executing]; rfl
    · simp [executing]
    · have unstarted := flow.idle idle
      rw [executing] at unstarted
      cases unstarted
  | ended executing _ => exact flow.finish executing
  | @died job executing =>
    have own : Shows [Event.ended job .panicked] [] [] [(job, .panicked)] [] [] :=
      ⟨rfl, rfl, rfl, rfl, rfl⟩
    refine flow.halt (by simp [executing]) own (by simp [executing]) rfl rfl (fun idle => ?_)
      flow.impatient
    rw [flow.idle idle] at executing
    cases executing
  | stopped _ listening =>
    have own : Shows ([] : List (Event Job)) [] [] [] [] [] := ⟨rfl, rfl, rfl, rfl, rfl⟩
    refine flow.halt (by simp [listening]) own (by simp [listening]) rfl rfl (fun idle => ?_)
      flow.impatient
    rw [flow.idle idle] at listening
    cases listening
  | @interrupted job _ _ executing =>
    have own : Shows [Event.abandoned job] [] [] [] [job] [] := ⟨rfl, rfl, rfl, rfl, rfl⟩
    refine flow.halt (by simp [executing]) own (by simp [executing]) rfl rfl (fun idle => ?_)
      flow.impatient
    rw [flow.idle idle] at executing
    cases executing

theorem run_flow [DecidableEq Query] (run : run? setup new actions = some (scheduler, past)) :
    Flow setup scheduler past :=
  run_induction (fun _ scheduler past => Flow setup scheduler past) flow_new
    (fun _ _ _ _ _ _ _ flow move => move.flow flow) run

end ChallengeGame.Scheduler
