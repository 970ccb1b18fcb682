import ChallengeGame.Proofs.Coordinator.History
import ChallengeGame.Proofs.Desk.Moves
import ChallengeGame.Proofs.Scheduler.Closing

/-!
# Overlapping calls to close

A scheduler and a desk are closed alike: the first call waits for the worker, and a call that
overlaps with it returns at once. So calls to close return when the worker has stopped exactly if
no call starts while another one still waits for it.
-/

namespace ChallengeGame

/-- What a system shows of its worker and of the calls that close it. -/
structure Closable (State Action Event : Type) where
  step? : State → Action → Option (State × List Event)
  /-- what only the worker does -/
  isWork : Action → Bool
  /-- a call starts -/
  closes : Action → Bool
  /-- a call returns -/
  returns : Event → Bool
  /-- the calls that wait for the worker -/
  closers : State → List Scheduler.CallId

namespace Closable

variable {State Action Event : Type} (system : Closable State Action Event)

def Works (state : State) : Prop :=
  ∃ action, system.isWork action = true ∧ (system.step? state action).isSome = true

/-- No call returns while the worker can still take a step. -/
def Waits (first : State) (actions : List Action) : Prop :=
  ∀ before action after middle past last shown, actions = before ++ action :: after →
    Steps.run? system.step? first before = some (middle, past) →
    system.step? middle action = some (last, shown) →
    (∃ event ∈ shown, system.returns event = true) → ¬system.Works last

/-- No call starts while another one waits for a worker that can still take a step. -/
def Alone (first : State) (actions : List Action) : Prop :=
  ∀ before action after middle past, actions = before ++ action :: after →
    Steps.run? system.step? first before = some (middle, past) →
    system.closes action = true → system.closers middle ≠ [] → ¬system.Works middle

/-- A call waits as long as it is the only one: what this comes to in one state. -/
structure Impatient (state : State) : Prop where
  early : ∀ action last shown, system.step? state action = some (last, shown) →
    (∃ event ∈ shown, system.returns event = true) → system.Works last →
    system.closes action = true ∧ system.closers state ≠ [] ∧ system.Works state
  overlapping : ∀ action, system.closes action = true → system.closers state ≠ [] →
    system.Works state → ∃ last shown, system.step? state action = some (last, shown) ∧
      (∃ event ∈ shown, system.returns event = true) ∧ system.Works last

variable {system}

theorem waits_iff_alone {first : State} (actions : List Action)
    (impatient : ∀ reached middle past,
      Steps.run? system.step? first reached = some (middle, past) → system.Impatient middle) :
    system.Waits first actions ↔ system.Alone first actions := by
  constructor
  · -- a call that overlaps returns at once, and the worker is where it was
    intro waits before action after middle past split run closes others works
    obtain ⟨last, shown, stepped, returned, still⟩ :=
      (impatient before middle past run).overlapping action closes others works
    exact waits before action after middle past last shown split run stepped returned still
  · intro alone before action after middle past last shown split run stepped returned still
    obtain ⟨closes, others, works⟩ :=
      (impatient before middle past run).early action last shown stepped returned still
    exact alone before action after middle past split run closes others works

end Closable

/-! ## Schedulers -/

namespace Scheduler

variable {Job Query : Type} {Answer : Query → Type} {setup : Setup Job Query Answer}
  {scheduler last : Scheduler Job Query Answer} {action : Action Job Query Answer}
  {actions : List (Action Job Query Answer)} {past shown : List (Event Job)}

/-- Somebody waits for the worker of a scheduler that is closed, and for no other one. -/
structure Awaited (scheduler : Scheduler Job Query Answer) : Prop where
  unwaited : scheduler.lifecycle ≠ .closed → scheduler.closers = []
  awaited : scheduler.lifecycle = .closed → scheduler.worker ≠ .stopped → scheduler.closers ≠ []

theorem Move.awaited (move : Move setup scheduler action last shown) (known : Awaited scheduler) :
    Awaited last := by
  obtain ⟨unwaited, awaited⟩ := known
  cases move with
  | turnedAway _ | admitted _ _ _ | queuedUp _ _ _ | dropped _ _ _ | givenUp | letIn _ _ _
  | refused _ _ | startedAgain _ | unheard _ | cancelled _ | closedAgain _ => exact ⟨unwaited, awaited⟩
  | started idle => exact ⟨fun _ => unwaited (by simp [idle]), nofun⟩
  | closedIdle _ => exact ⟨fun going => absurd rfl going, fun _ going => absurd rfl going⟩
  | closing _ => exact ⟨fun going => absurd rfl going, fun _ _ => by simp⟩
  | closeReturned stopped _ =>
    exact ⟨fun going => by simp [unwaited going], fun _ going => absurd stopped going⟩
  | took listening _ => exact ⟨unwaited, fun closed _ => awaited closed (by simp [listening])⟩
  | progressed executing | ended executing _ =>
    exact ⟨unwaited, fun closed _ => awaited closed (by simp [executing])⟩
  | died _ | stopped _ _ | interrupted _ _ => exact ⟨unwaited, fun _ going => absurd rfl going⟩

def Action.closes : Action Job Query Answer → Bool
  | .close _ => true
  | _ => false

def Event.isReturn : Event Job → Bool
  | .closeReturned _ => true
  | _ => false

theorem Move.quiet (move : Move setup scheduler action last shown) (other : action.closes = false)
    {event : Event Job} (mem : event ∈ shown) (returns : event.isReturn = true) :
    last.worker = .stopped := by
  obtain ⟨call, rfl⟩ : ∃ call, event = .closeReturned call := by
    cases event with
    | closeReturned call => exact ⟨call, rfl⟩
    | _ => cases returns
  cases move with
  | closeReturned stopped _ => exact stopped
  | closedIdle _ | closedAgain _ => cases other
  | _ => simp [discarded] at mem

variable [DecidableEq Query]

theorem run_awaited (run : run? setup new actions = some (scheduler, past)) : Awaited scheduler :=
  run_induction (fun _ scheduler _ => Awaited scheduler)
    ⟨fun _ => rfl, fun closed => by cases closed⟩
    (fun _ _ _ _ _ _ _ known move => move.awaited known) run

theorem run?_eq (setup : Setup Job Query Answer) (scheduler : Scheduler Job Query Answer)
    (actions : List (Action Job Query Answer)) :
    run? setup scheduler actions = Steps.run? (step? setup) scheduler actions := by
  induction actions generalizing scheduler with
  | nil => rfl
  | cons action rest ih => simp only [run?, Steps.run?, ih]

def closable (setup : Setup Job Query Answer) :
    Closable (Scheduler Job Query Answer) (Action Job Query Answer) (Event Job) :=
  ⟨step? setup, Action.isWork, Action.closes, Event.isReturn, closers⟩

theorem not_works_of_stopped (stopped : scheduler.worker = .stopped) :
    ¬(closable setup).Works scheduler := by
  rintro ⟨action, work, enabled⟩
  obtain ⟨⟨last, shown⟩, stepped⟩ := Option.isSome_iff_exists.1 enabled
  -- the moves of the worker start from a worker that listens or executes
  cases step?_eq_some_iff.1 stepped with
  | took listening _ | stopped _ listening => rw [stopped] at listening; cases listening
  | progressed executing | ended executing _ | died executing | interrupted _ executing =>
    rw [stopped] at executing; cases executing
  | _ => cases work

theorem Awaited.impatient (known : Awaited scheduler) : (closable setup).Impatient scheduler where
  early action last shown stepped returned works := by
    have move : Move setup scheduler action last shown := step?_eq_some_iff.1 stepped
    -- a call that waited finds the worker stopped, so this is one that did not wait
    have going : last.worker ≠ .stopped := fun stopped => not_works_of_stopped stopped works
    obtain ⟨event, mem, returns⟩ := returned
    cases closes : action.closes with
    | false => exact absurd (move.quiet closes mem returns) going
    | true =>
      cases move with
      | closedAgain closed => exact ⟨rfl, known.awaited closed going, works⟩
      | closedIdle _ => exact absurd rfl going
      | closing _ => cases mem
      | _ => cases closes
  overlapping action closes others works := by
    cases action with
    | close call =>
      have closed : scheduler.lifecycle = .closed := by
        by_contra going
        exact others (known.unwaited going)
      have again : Move setup scheduler (.close call) scheduler [.closeReturned call] :=
        .closedAgain closed
      exact ⟨scheduler, _, step?_eq_some_iff.2 again, ⟨_, List.mem_singleton.2 rfl, rfl⟩, works⟩
    | _ => cases closes

end Scheduler

/-! ## Desks -/

namespace Desk

variable {setup : Coordinator.Setup} {desk last : Desk} {action : Action} {actions : List Action}
  {past shown : List Event}

/-- Somebody waits for a desk that is closed and has not ended, and for no other one. -/
structure Awaited (desk : Desk) : Prop where
  unwaited : desk.closed = false → desk.closers = []
  awaited : desk.closed = true → desk.phase ≠ .ended → desk.closers ≠ []
  told : desk.closed = true → desk.cancelled = true
  started : desk.closed = true → desk.phase ≠ .unstarted

theorem Move.awaited (move : Move setup desk action last shown) (known : Awaited desk) :
    Awaited last := by
  obtain ⟨unwaited, awaited, told, started⟩ := known
  cases move with
  | handed _ _ | accepted _ _ _ | queuedUp _ _ | turnedAway _ | givenUp _ | letIn _ _ _ | refused _ _
  | took _ _ _ | progressed _ _ | finished _ _ _ => exact ⟨unwaited, awaited, told, started⟩
  | started unstarted _ => exact ⟨unwaited, fun closed _ => awaited closed (by simp [unstarted]), told, nofun⟩
  | died _ _ _ | stopped _ _ => exact ⟨unwaited, fun _ going => absurd rfl going, told, nofun⟩
  | cancelled => exact ⟨unwaited, awaited, fun _ => rfl, started⟩
  | closing begun _ => exact ⟨nofun, fun _ _ => by simp, fun _ => rfl, fun _ => begun⟩
  | closedAgain _ _ => exact ⟨unwaited, awaited, fun _ => rfl, started⟩
  | closeReturned ended _ =>
    exact ⟨fun going => by simp [unwaited going], fun _ going => absurd ended going, told, started⟩

theorem awaited_new (books : Coordinator.Books) : Awaited (new books) where
  unwaited _ := rfl
  awaited closed := by cases closed
  told closed := by cases closed
  started closed := by cases closed

theorem run_awaited {books : Coordinator.Books}
    (run : Steps.run? (step? setup) (new books) actions = some (desk, past)) : Awaited desk :=
  Steps.run_induction (fun _ desk _ => Awaited desk) (awaited_new books)
    (fun _ _ _ _ _ _ _ known stepped => (Move.of_step? stepped).awaited known) run

def Action.isWork : Action → Bool
  | .take | .progress _ | .finish | .stop => true
  | _ => false

def Action.closes : Action → Bool
  | .close _ => true
  | _ => false

def Event.isReturn : Event → Bool
  | .closeReturned _ => true
  | _ => false

def closable (setup : Coordinator.Setup) : Closable Desk Action Event :=
  ⟨step? setup, Action.isWork, Action.closes, Event.isReturn, closers⟩

theorem not_works_of_ended (ended : desk.phase = .ended) : ¬(closable setup).Works desk := by
  rintro ⟨action, work, enabled⟩
  obtain ⟨⟨last, shown⟩, stepped⟩ := Option.isSome_iff_exists.1 enabled
  cases step?_eq_some_iff.1 stepped with
  | took other | died other | stopped other => rw [ended] at other; cases other
  | progressed going | finished going => exact going ended
  | _ => cases work

theorem Move.quiet (move : Move setup desk action last shown) (other : action.closes = false)
    {event : Event} (mem : event ∈ shown) (returns : event.isReturn = true) : last.phase = .ended := by
  obtain ⟨call, rfl⟩ : ∃ call, event = .closeReturned call := by
    cases event with
    | closeReturned call => exact ⟨call, rfl⟩
    | _ => cases returns
  cases move with
  | closeReturned ended _ => exact ended
  | closedAgain _ _ => cases other
  | stopped _ _ => rfl
  | died _ _ _ => rfl
  | _ => simp at mem

theorem Awaited.impatient (known : Awaited desk) : (closable setup).Impatient desk where
  early action last shown stepped returned works := by
    have move : Move setup desk action last shown := step?_eq_some_iff.1 stepped
    have going : last.phase ≠ .ended := fun ended => not_works_of_ended ended works
    obtain ⟨event, mem, returns⟩ := returned
    cases closes : action.closes with
    | false => exact absurd (move.quiet closes mem returns) going
    | true =>
      cases move with
      | closedAgain _ closed =>
        -- the desk was told already when it was closed first
        have same : { desk with cancelled := true } = desk := by rw [← known.told closed]
        rw [same] at works
        exact ⟨rfl, known.awaited closed going, works⟩
      | closing _ _ => cases mem
      | _ => cases closes
  overlapping action closes others works := by
    cases action with
    | close call =>
      have closed : desk.closed = true := by
        by_contra going
        exact others (known.unwaited (Bool.eq_false_iff.2 going))
      have same : { desk with cancelled := true } = desk := by rw [← known.told closed]
      have again : Move setup desk (.close call) { desk with cancelled := true } [.closeReturned call] :=
        .closedAgain (known.started closed) closed
      exact ⟨_, _, step?_eq_some_iff.2 again, ⟨_, List.mem_singleton.2 rfl, rfl⟩, same.symm ▸ works⟩
    | _ => cases closes

end Desk

/-! ## Both of them -/

/-- Calls to close wait for the worker as long as they do not overlap, and only then. -/
theorem close_waits_iff {Job Query : Type} {Answer : Query → Type} [DecidableEq Query]
    (setup : Scheduler.Setup Job Query Answer) (actions : List (Scheduler.Action Job Query Answer))
    (desk : Coordinator.Setup) (books : Coordinator.Books) (deskActions : List Desk.Action) :
    ((Scheduler.closable setup).Waits .new actions ↔ (Scheduler.closable setup).Alone .new actions) ∧
    ((Desk.closable desk).Waits (.new books) deskActions ↔
      (Desk.closable desk).Alone (.new books) deskActions) := by
  constructor
  · refine Closable.waits_iff_alone actions fun reached middle past run => ?_
    rw [Scheduler.closable, ← Scheduler.run?_eq] at run
    exact (Scheduler.run_awaited run).impatient
  · exact Closable.waits_iff_alone deskActions fun reached middle past run =>
      (Desk.run_awaited run).impatient

namespace Scheduler.Sample

def overlapping : List (Action Nat Unit fun _ => Unit) :=
  [.schedule 1 7, .start false, .take, .close 4, .close 5]

end Scheduler.Sample

namespace Desk.Sample

def overlapping : List Action :=
  [.start, .send 1 (Coordinator.Sample.block 100), .take, .close 4, .close 5]

end Desk.Sample

/-- The second of two overlapping calls returns, and then the job is carried out to its end. -/
theorem close_returns_early :
    (∃ going ended,
      Scheduler.run? Scheduler.Sample.blocking .new Scheduler.Sample.overlapping =
        some (going, [.returned 1 7 .queued, .took 7, .closeReturned 5]) ∧
      Scheduler.run? Scheduler.Sample.blocking going [.progress ⟨(), ()⟩, .finish] =
        some (ended, [.ended 7 .submitted])) ∧
    ¬(Scheduler.closable Scheduler.Sample.blocking).Waits .new Scheduler.Sample.overlapping ∧
    ¬(Desk.closable Coordinator.Sample.challenger).Waits (.new (Coordinator.Books.new 4))
      Desk.Sample.overlapping := by
  refine ⟨⟨_, _, rfl, rfl⟩, fun waits => ?_, fun waits => ?_⟩
  · refine waits [.schedule 1 7, .start false, .take, .close 4] (.close 5) [] _ _ _ _ rfl rfl rfl
      ⟨.closeReturned 5, List.mem_singleton.2 rfl, rfl⟩ ⟨.progress ⟨(), ()⟩, rfl, rfl⟩
  · refine waits [.start, .send 1 (Coordinator.Sample.block 100), .take, .close 4] (.close 5) [] _ _ _ _
      rfl rfl rfl ⟨.closeReturned 5, List.mem_singleton.2 rfl, rfl⟩ ⟨.stop, rfl, rfl⟩

end ChallengeGame
