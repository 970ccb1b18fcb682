import ChallengeGame.Proofs.Scheduler.Flow
import ChallengeGame.Proofs.Trace

/-!
# The two policies of a mailbox

Under both policies jobs are taken in the order they were accepted, each at most once, and a
job is accepted only if every earlier one was taken. A mailbox that blocks lets its callers
wait and drops nothing. A mailbox that drops answers at once, and a call whose job is dropped
changes nothing but a count: everything goes on as if it had not been made.
-/

namespace ChallengeGame.Scheduler

variable {Job Query : Type} {Answer : Query → Type} {setup : Setup Job Query Answer}
  {scheduler last : Scheduler Job Query Answer} {action : Action Job Query Answer}
  {actions : List (Action Job Query Answer)} {past shown : List (Event Job)}

/-! ## Accepting -/

/-- Every job was accepted when the earlier ones were all taken. -/
def AcceptedInTurn (past : List (Event Job)) : Prop :=
  ∀ before call job after, past = before ++ .returned call job .queued :: after →
    accepted before = taken before

theorem Move.queued (move : Move setup scheduler action last shown) {call : CallId} {job : Job}
    (mem : .returned call job .queued ∈ shown) :
    shown = [.returned call job .queued] ∧ scheduler.isOpen = true ∧ scheduler.slot? = none := by
  cases move with
  | admitted live free _ => cases List.mem_singleton.1 mem; exact ⟨rfl, live, free⟩
  | letIn live free _ => cases List.mem_singleton.1 mem; exact ⟨rfl, live, free⟩
  | _ => simp [discarded] at mem

theorem Flow.accepted_eq (flow : Flow setup scheduler past) (live : scheduler.isOpen = true) :
    accepted past = taken past ++ scheduler.slot?.toList := by
  obtain ⟨noneLeft, _⟩ := flow.live (isOpen_eq_true.1 live)
  rw [flow.slot, noneLeft, List.append_nil]

theorem Flow.accepted_eq_taken (flow : Flow setup scheduler past)
    (live : scheduler.isOpen = true) :
    accepted past = taken past ↔ scheduler.slot? = none := by
  rw [flow.accepted_eq live]
  simp

theorem Flow.next (flow : Flow setup scheduler past) :
    ∃ next : Option Job, accepted past = taken past ++ next.toList := by
  by_cases stopped : scheduler.worker = .stopped
  · -- the slot is empty, and what it held was left behind
    refine ⟨(leftBehind past).head?, ?_⟩
    rw [flow.slot, flow.stopped stopped, ← List.take_one,
      List.take_of_length_le flow.leftBehind_le]
    exact List.append_nil _
  · exact ⟨scheduler.slot?, flow.accepted_eq (isOpen_eq_true.2 stopped)⟩

theorem Flow.current (flow : Flow setup scheduler past) :
    ∃ current : Option Job, taken past = (finished past).map Prod.fst ++ current.toList := by
  by_cases stopped : scheduler.worker = .stopped
  · -- nothing is under way, and what was has been broken off
    refine ⟨(brokenOff past).head?, ?_⟩
    rw [flow.work, stopped, ← List.take_one, List.take_of_length_le flow.brokenOff_le]
    simp
  · obtain ⟨_, none⟩ := flow.live stopped
    refine ⟨scheduler.worker.job?, ?_⟩
    rw [flow.work, none, List.append_nil]

theorem Move.acceptedInTurn (move : Move setup scheduler action last shown)
    (flow : Flow setup scheduler past) (before : AcceptedInTurn past) :
    AcceptedInTurn (past ++ shown) := by
  intro earlier call job later split
  rcases append_at.1 split with ⟨rest, rfl, rfl⟩ | ⟨own, rfl, inside⟩
  · exact before earlier call job rest rfl
  · -- the call returned at this move, and nothing else was shown of it
    have mem : .returned call job .queued ∈ shown := by rw [inside]; simp
    obtain ⟨alone, live, free⟩ := move.queued mem
    have first : own = [] := by
      rw [alone, List.singleton_eq_append_iff] at inside
      rcases inside with ⟨none, _⟩ | ⟨_, beyond⟩
      · exact none
      · cases beyond
    rw [first, List.append_nil]
    exact (flow.accepted_eq_taken live).2 free

theorem Move.not_dropped (move : Move setup scheduler action last shown)
    (policy : setup.policy = .block) (call : CallId) (job : Job) :
    .returned call job .dropped ∉ shown := by
  intro mem
  cases move with
  | dropped _ impatient _ => rw [policy] at impatient; cases impatient
  | _ => simp [discarded] at mem

/-! ## Dropping -/

theorem schedule_dropIfBusy (scheduler : Scheduler Job Query Answer)
    (policy : setup.policy = .dropIfBusy) (call : CallId) (job : Job) :
    ∃ after result, schedule setup call job scheduler = (after, [.returned call job result]) ∧
      (result = .queued ↔ scheduler.isOpen = true ∧ scheduler.slot? = none) ∧
      (result = .dropped ↔ scheduler.isOpen = true ∧ scheduler.slot? ≠ none) ∧
      (result = .dropped → after = { scheduler with tally := after.tally }) := by
  unfold schedule
  split
  · rename_i closed
    have shut : scheduler.isOpen = false := by simpa using closed
    exact ⟨scheduler, .closed setup.kind, rfl, by simp [shut], by simp [shut], fun _ => rfl⟩
  · rename_i live
    have live : scheduler.isOpen = true := by simpa using live
    rw [policy]
    -- an open mailbox answers by its slot alone
    by_cases free : scheduler.slot? = none
    · refine ⟨{ scheduler with slot? := some job }, .queued, by simp [free], ?_, ?_, by simp⟩
      · simp [live, free]
      · simp [free]
    · refine ⟨{ scheduler with tally := scheduler.tally.record .dropped }, .dropped, ?_, ?_, ?_,
        fun _ => rfl⟩
      · simp [free]
      · simp [free]
      · simp [live, free]

/-- What was counted has no influence on what happens. -/
theorem Move.alike (move : Move setup scheduler action last shown) (tally : Tally) :
    ∃ counted, Move setup { scheduler with tally } action { last with tally := counted } shown := by
  cases move with
  | turnedAway closed => exact ⟨tally, .turnedAway closed⟩
  | admitted live free overtakes => exact ⟨tally, .admitted live free overtakes⟩
  | queuedUp live policy busy => exact ⟨tally, .queuedUp live policy busy⟩
  | dropped live policy busy => exact ⟨_, .dropped live policy busy⟩
  | givenUp => exact ⟨tally, .givenUp⟩
  | letIn live free waiting => exact ⟨tally, .letIn live free waiting⟩
  | refused closed waiting => exact ⟨tally, .refused closed waiting⟩
  | started idle => exact ⟨tally, .started idle⟩
  | startedAgain begun => exact ⟨tally, .startedAgain begun⟩
  | unheard idle => exact ⟨tally, .unheard idle⟩
  | cancelled begun => exact ⟨tally, .cancelled begun⟩
  | closedIdle idle => exact ⟨tally, .closedIdle idle⟩
  | closing running => exact ⟨tally, .closing running⟩
  | closedAgain closed => exact ⟨tally, .closedAgain closed⟩
  | closeReturned stopped mem => exact ⟨tally, .closeReturned stopped mem⟩
  | took listening waiting => exact ⟨tally, .took listening waiting⟩
  | progressed executing => exact ⟨tally, .progressed executing⟩
  | ended executing survived => exact ⟨_, .ended executing survived⟩
  | died executing => exact ⟨tally, .died executing⟩
  | stopped told listening => exact ⟨tally, .stopped told listening⟩
  | interrupted told executing => exact ⟨tally, .interrupted told executing⟩

variable [DecidableEq Query]

theorem run?_alike (run : run? setup scheduler actions = some (last, shown)) (tally : Tally) :
    ∃ counted, run? setup { scheduler with tally } actions =
      some ({ last with tally := counted }, shown) := by
  -- the tallies go apart at every step that counts
  induction actions generalizing scheduler shown tally with
  | nil => cases run; exact ⟨tally, rfl⟩
  | cons action rest ih =>
    obtain ⟨middle, own, later, move, onward, rfl⟩ := run?_cons.1 run
    obtain ⟨between, move⟩ := move.alike tally
    obtain ⟨counted, onward⟩ := ih onward between
    exact ⟨counted, run?_cons.2 ⟨_, own, later, move, onward, rfl⟩⟩

/-! ## Both policies -/

/-- How a mailbox that drops answers to every call. -/
structure Impatient (setup : Setup Job Query Answer) (scheduler : Scheduler Job Query Answer)
    (past : List (Event Job)) : Prop where
  /-- No call waits. -/
  at_once : scheduler.waiting = []
  /-- A call is answered by the step it makes: while the mailbox is open, its job is accepted if
  every earlier one was taken, and dropped otherwise. -/
  answers : ∀ call job, ∃ after result,
    step? setup scheduler (.schedule call job) = some (after, [.returned call job result]) ∧
      (result = .queued ↔ scheduler.isOpen = true ∧ accepted past = taken past) ∧
      (result = .dropped ↔ scheduler.isOpen = true ∧ accepted past ≠ taken past)
  /-- Whatever happens after a job was dropped could have happened without the call. -/
  apart : ∀ call job after, step? setup scheduler (.schedule call job) =
      some (after, [.returned call job .dropped]) →
    ∀ later last fresh, run? setup after later = some (last, fresh) →
      ∃ tally, run? setup scheduler later = some ({ last with tally }, fresh)

/-- What a mailbox keeps to, whatever happens. -/
structure MailboxFlow (setup : Setup Job Query Answer) (scheduler : Scheduler Job Query Answer)
    (past : List (Event Job)) : Prop where
  /-- The accepted jobs are taken in order, and all but the last were taken. -/
  in_order : ∃ next : Option Job, accepted past = taken past ++ next.toList
  /-- The jobs that were taken are carried out in order, and all but the last are finished. -/
  one_runs : ∃ current : Option Job, taken past = (finished past).map Prod.fst ++ current.toList
  in_turn : AcceptedInTurn past
  block : setup.policy = .block → ∀ call job, .returned call job .dropped ∉ past
  dropIfBusy : setup.policy = .dropIfBusy → Impatient setup scheduler past
  /-- When the worker has nothing to do, every accepted job was carried out. -/
  at_rest : scheduler.worker = .listening → scheduler.slot? = none →
    (finished past).map Prod.fst = accepted past

theorem Flow.toImpatient (flow : Flow setup scheduler past) (policy : setup.policy = .dropIfBusy) :
    Impatient setup scheduler past := by
  constructor
  case at_once => exact flow.impatient policy
  case answers =>
    intro call job
    obtain ⟨after, result, answered, queued, dropped, _⟩ :=
      schedule_dropIfBusy scheduler policy call job
    have inSlot (live : scheduler.isOpen = true) := flow.accepted_eq_taken live
    refine ⟨after, result, congrArg some answered, queued.trans ?_, dropped.trans ?_⟩
    · exact and_congr_right fun live => (inSlot live).symm
    · exact and_congr_right fun live => not_congr (inSlot live).symm
  case apart =>
    intro call job after stepped later last fresh onward
    obtain ⟨_, _, answered, _, _, unchanged⟩ := schedule_dropIfBusy scheduler policy call job
    cases answered.symm.trans (Option.some.inj stepped)
    -- the two schedulers differ in their tallies only
    rw [unchanged rfl] at onward
    exact run?_alike onward scheduler.tally

theorem run_acceptedInTurn (run : run? setup new actions = some (scheduler, past)) :
    AcceptedInTurn past := by
  refine run_induction (fun _ _ past => AcceptedInTurn past) ?_ ?_ run
  · intro before call job after split
    cases before <;> cases split
  · intro _ _ _ _ _ _ before inTurn move
    exact move.acceptedInTurn (run_flow before) inTurn

theorem run_not_dropped (run : run? setup new actions = some (scheduler, past))
    (policy : setup.policy = .block) (call : CallId) (job : Job) :
    .returned call job .dropped ∉ past := by
  refine run_induction (fun _ _ past => .returned call job .dropped ∉ past) ?_ ?_ run
  · exact List.not_mem_nil
  · intro _ _ _ _ _ _ _ earlier move mem
    rcases List.mem_append.1 mem with old | own
    · exact earlier old
    · exact move.not_dropped policy call job own

/-- Whatever happens to a fresh scheduler, and in whatever order. -/
theorem mailbox_flow (run : run? setup new actions = some (scheduler, past)) :
    MailboxFlow setup scheduler past := by
  have flow := run_flow run
  constructor
  case in_order => exact flow.next
  case one_runs => exact flow.current
  case in_turn => exact run_acceptedInTurn run
  case block => exact run_not_dropped run
  case dropIfBusy => exact flow.toImpatient
  case at_rest =>
    intro listening free
    have live : scheduler.worker ≠ .stopped := by simp [listening]
    have work := flow.work
    rw [listening, (flow.live live).2] at work
    rw [(flow.accepted_eq_taken (isOpen_eq_true.2 live)).2 free, work]
    simp

def Sample.dropping : Setup Nat Unit (fun _ => Unit) :=
  ⟨.withdraw, .dropIfBusy, fun _ => .ask () fun _ => .done .submitted⟩

/-- Job 7 is accepted before the worker starts, job 8 while it is carried out, and job 9 comes
too early. -/
def Sample.busy : List (Action Nat Unit fun _ => Unit) :=
  [.schedule 1 7, .start false, .take, .schedule 2 8, .schedule 3 9, .progress ⟨(), ()⟩, .finish,
    .take, .progress ⟨(), ()⟩, .finish]

def Sample.afterBusy : Scheduler Nat Unit (fun _ => Unit) :=
  ⟨.running, false, .listening, none, [], [], ⟨2, 0, 0, 1⟩⟩

def Sample.busyShown : List (Event Nat) :=
  [.returned 1 7 .queued, .took 7, .returned 2 8 .queued, .returned 3 9 .dropped,
    .ended 7 .submitted, .took 8, .ended 8 .submitted]

theorem mailbox_flow_busy :
    run? Sample.dropping new Sample.busy = some (Sample.afterBusy, Sample.busyShown) ∧
      MailboxFlow Sample.dropping Sample.afterBusy Sample.busyShown := by
  have run : run? Sample.dropping new Sample.busy =
    some (Sample.afterBusy, Sample.busyShown) := rfl
  exact ⟨run, mailbox_flow run⟩

end ChallengeGame.Scheduler
