import ChallengeGame.Proofs.Coordinator.Attendance
import ChallengeGame.Proofs.Coordinator.Obstacles
import ChallengeGame.Proofs.Desk.Moves

/-!
# The loop of a desk

A started desk does with the heads that are handed over what a coordinator does that is given one
head after the other. It works on them in the order in which they were accepted and leaves out
none, and only a block that nobody can read ends it.
-/

namespace ChallengeGame

namespace Coordinator

variable {setup : Setup} {coordinator next before between after rested : Coordinator}
  {head other : BlockRef} {exchange : Exchange} {trace : List Exchange} {turns more : List Turn}
  {result : Except Error Unit}

def WorksOn (head : BlockRef) (coordinator : Coordinator) : Prop :=
  ∃ rest, coordinator.activity = .working head rest

theorem worksOn_of_begin? (begun : coordinator.begin? setup head = some next) :
    (∃ books, coordinator.activity = .resting books) ∧ next.WorksOn head := by
  unfold begin? at begun
  split at begun
  · rename_i books resting
    cases begun
    exact ⟨⟨books, resting⟩, _, rfl⟩
  · cases begun

theorem worksOn_of_progress? (moved : coordinator.progress? exchange = some next) :
    ∃ head, coordinator.WorksOn head ∧ next.WorksOn head := by
  unfold progress? at moved
  split at moved
  · rename_i head rest working
    obtain ⟨left, _, rfl⟩ := Option.map_eq_some_iff.1 moved
    exact ⟨head, ⟨rest, working⟩, left, rfl⟩
  · cases moved

theorem worksOn_of_finish? (ends : coordinator.finish? = some (head, result, rested)) :
    coordinator.WorksOn head := by
  unfold finish? at ends
  split at ends
  · rename_i working
    cases ends
    exact ⟨_, working⟩
  · cases ends

theorem WorksOn.eq (here : coordinator.WorksOn head) (there : coordinator.WorksOn other) :
    head = other := by
  obtain ⟨_, here⟩ := here
  obtain ⟨_, there⟩ := there
  rw [here] at there
  cases there
  rfl

theorem WorksOn.progressAll? (works : coordinator.WorksOn head)
    (moved : coordinator.progressAll? trace = some next) : next.WorksOn head := by
  induction trace generalizing coordinator with
  | nil =>
    cases moved
    exact works
  | cons exchange rest ih =>
    obtain ⟨between, one, onward⟩ := Option.bind_eq_some_iff.1 moved
    obtain ⟨other, before, after⟩ := worksOn_of_progress? one
    obtain rfl := works.eq before
    exact ih after onward

theorem progressAll?_concat :
    coordinator.progressAll? (trace ++ [exchange]) =
      (coordinator.progressAll? trace).bind (·.progress? exchange) := by
  simp [progressAll?]

theorem Attends.trans (first : Attends setup before turns between)
    (second : Attends setup between more after) : Attends setup before (turns ++ more) after := by
  induction first with
  | nil => exact second
  | cons begun worked ends _ ih => exact .cons begun worked ends (ih second)

theorem run_append {books last : Books} :
    Run setup books (turns ++ more) last ↔
      ∃ between, Run setup books turns between ∧ Run setup between more last := by
  constructor
  · intro run
    induction turns generalizing books with
    | nil => exact ⟨books, .nil, run⟩
    | cons turn rest ih =>
      cases run with
      | cons own later =>
        obtain ⟨between, before, after⟩ := ih later
        exact ⟨between, .cons own before, after⟩
  · rintro ⟨between, before, after⟩
    induction before with
    | nil => exact after
    | cons own _ ih => exact .cons own (ih after)

/-- The work on a head comes to a block that only blobs tell, with nobody to ask for them. -/
def Turn.Unreadable (setup : Setup) (before : Books) (turn : Turn) (after : Books) : Prop :=
  ReachesBlock setup before turn.head turn.trace turn.result after ∧
    Batch.Blind setup.rollup setup.hasBlobs turn.head

end Coordinator

namespace Desk

open Coordinator (Attends Books Exchange ReachesBlock Run Setup Turn Uncancelled)
open Scheduler (CallId)

/-! ## What is shown -/

def Event.accepted? : Event → Option BlockRef
  | .delivered _ head true => some head
  | _ => none

def Event.begun? : Event → Option BlockRef
  | .began head => some head
  | _ => none

def Event.isWork : Event → Bool
  | .began _ | .exchanged _ | .finished _ _ => true
  | _ => false

def accepted (shown : List Event) : List BlockRef := shown.filterMap Event.accepted?

def begun (shown : List Event) : List BlockRef := shown.filterMap Event.begun?

def work (shown : List Event) : List Event := shown.filter Event.isWork

def told (turn : Turn) : List Event :=
  .began turn.head :: turn.trace.map .exchanged ++ [.finished turn.head turn.result]

/-- The action is no part of a shutdown. A caller may still give up waiting. -/
def Action.isCalm : Action → Bool
  | .cancel | .close _ => false
  | .progress ⟨.offer _, .cancelled⟩ => false
  | _ => true

/-- The coordinator rests, or it works on a head of which this much was shown. -/
inductive Under (setup : Setup) (rested : Coordinator) : List Event → Coordinator → Prop where
  | resting : Under setup rested [] rested
  | working {head : BlockRef} {begun now : Coordinator} {trace : List Exchange} :
      rested.begin? setup head = some begun → begun.progressAll? trace = some now →
      Under setup rested (.began head :: trace.map .exchanged) now

variable {setup : Setup} {first rested coordinator next : Coordinator} {books : Books}
  {desk last : Desk} {action : Action} {actions : List Action} {shown past current : List Event}
  {turns : List Turn} {left? : Option BlockRef} {head : BlockRef} {exchange : Exchange}
  {result : Except Coordinator.Error Unit}

theorem accepted_append : accepted (past ++ shown) = accepted past ++ accepted shown :=
  List.filterMap_append

theorem begun_append : begun (past ++ shown) = begun past ++ begun shown :=
  List.filterMap_append

theorem work_append : work (past ++ shown) = work past ++ work shown :=
  List.filter_append ..

/-! ## One head -/

namespace Under

theorem eq_rested (under : Under setup rested [] coordinator) : coordinator = rested := by
  cases under
  rfl

theorem begin? (under : Under setup rested current coordinator)
    (begun : coordinator.begin? setup head = some next) :
    current = [] ∧ Under setup rested [.began head] next := by
  cases under with
  | resting =>
    have nothing : next.progressAll? [] = some next := rfl
    exact ⟨rfl, .working begun nothing⟩
  | working started moved =>
    obtain ⟨⟨_, resting⟩, _⟩ := Coordinator.worksOn_of_begin? begun
    obtain ⟨_, working⟩ := (Coordinator.worksOn_of_begin? started).2.progressAll? moved
    rw [resting] at working
    cases working

theorem progress? (under : Under setup rested current coordinator)
    (resting : rested.activity = .resting books)
    (moved : coordinator.progress? exchange = some next) :
    Under setup rested (current ++ [.exchanged exchange]) next := by
  cases under with
  | resting =>
    obtain ⟨_, ⟨_, working⟩, _⟩ := Coordinator.worksOn_of_progress? moved
    rw [resting] at working
    cases working
  | @working head begun _ trace started earlier =>
    have further : begun.progressAll? (trace ++ [exchange]) = some next := by
      rw [Coordinator.progressAll?_concat, earlier]
      exact moved
    simpa using Under.working started further

theorem finish? (under : Under setup rested current coordinator)
    (resting : rested.activity = .resting books)
    (ends : coordinator.finish? = some (head, result, next)) :
    ∃ trace, current ++ [.finished head result] = told ⟨head, trace, result⟩ ∧
      Attends setup rested [⟨head, trace, result⟩] next := by
  have works := Coordinator.worksOn_of_finish? ends
  cases under with
  | resting =>
    obtain ⟨_, working⟩ := works
    rw [resting] at working
    cases working
  | @working other _ _ trace started moved =>
    obtain rfl := works.eq ((Coordinator.worksOn_of_begin? started).2.progressAll? moved)
    exact ⟨trace, rfl, .cons started moved ends .nil⟩

end Under

/-! ## The loop -/

/-- How far a desk has come that nobody shuts down. -/
structure Loop (setup : Setup) (first : Coordinator) (desk : Desk) (shown : List Event)
    (turns : List Turn) (rested : Coordinator) (current : List Event) (left? : Option BlockRef) :
    Prop where
  untold : desk.cancelled = false
  started : desk.phase ≠ .unstarted
  attends : Attends setup first turns rested
  worked : work shown = turns.flatMap told ++ current
  under : Under setup rested current desk.coordinator
  /-- At most one head waits to be taken, or was left behind. -/
  queue : accepted shown = begun shown ++ left?.toList
  waits : desk.phase = .running → desk.inbox? = left?
  going : desk.phase = .running → ∀ turn ∈ turns, isLast turn.result = false
  gone : desk.phase = .ended → current = [] ∧ ∃ earlier turn, turns = earlier ++ [turn] ∧
    (∀ other ∈ earlier, isLast other.result = false) ∧ isLast turn.result = true

theorem Loop.aside (loop : Loop setup first desk past turns rested current left?)
    (untold : last.cancelled = false) (coordinator : last.coordinator = desk.coordinator)
    (phase : last.phase = desk.phase) (inbox : last.inbox? = desk.inbox?)
    (quiet : accepted shown = [] ∧ begun shown = [] ∧ work shown = []) :
    Loop setup first last (past ++ shown) turns rested current left? where
  untold := untold
  started := by rw [phase]; exact loop.started
  attends := loop.attends
  worked := by rw [work_append, quiet.2.2, List.append_nil, loop.worked]
  under := by rw [coordinator]; exact loop.under
  queue := by
    rw [accepted_append, begun_append, quiet.1, quiet.2.1, List.append_nil, List.append_nil,
      loop.queue]
  waits := by rw [phase, inbox]; exact loop.waits
  going := by rw [phase]; exact loop.going
  gone := by rw [phase]; exact loop.gone

theorem Loop.accept (loop : Loop setup first desk past turns rested current left?)
    {call : CallId} {waiting : List (CallId × BlockRef)}
    (running : desk.phase = .running) (free : desk.inbox? = none) :
    Loop setup first { desk with inbox? := some head, waiting }
      (past ++ [.delivered call head true]) turns rested current (some head) where
  untold := loop.untold
  started := loop.started
  attends := loop.attends
  worked := by rw [work_append, loop.worked]; exact List.append_nil _
  under := loop.under
  queue := by
    obtain rfl : left? = none := by rw [← loop.waits running, free]
    rw [accepted_append, begun_append, loop.queue]
    simp [accepted, begun, Event.accepted?, Event.begun?]
  waits := fun _ => rfl
  going := loop.going
  gone := loop.gone

theorem Loop.take (loop : Loop setup first desk past turns rested current left?)
    (running : desk.phase = .running) (waiting : desk.inbox? = some head)
    (began : desk.coordinator.begin? setup head = some next) :
    Loop setup first { desk with coordinator := next, inbox? := none } (past ++ [.began head])
      turns rested [.began head] none where
  untold := loop.untold
  started := loop.started
  attends := loop.attends
  worked := by
    obtain ⟨rfl, -⟩ := loop.under.begin? began
    rw [work_append, loop.worked, List.append_nil]
    rfl
  under := (loop.under.begin? began).2
  queue := by
    obtain rfl : left? = some head := by rw [← loop.waits running, waiting]
    rw [accepted_append, begun_append, loop.queue]
    simp [accepted, begun, Event.accepted?, Event.begun?]
  waits := fun _ => rfl
  going := loop.going
  gone := fun ended => by simp [running] at ended

theorem Loop.progress (loop : Loop setup first desk past turns rested current left?)
    (resting : rested.activity = .resting books) (going : desk.phase ≠ .ended)
    (moved : desk.coordinator.progress? exchange = some next) :
    Loop setup first { desk with coordinator := next } (past ++ [.exchanged exchange])
      turns rested (current ++ [.exchanged exchange]) left? where
  untold := loop.untold
  started := loop.started
  attends := loop.attends
  worked := by rw [work_append, loop.worked, List.append_assoc]; rfl
  under := loop.under.progress? resting moved
  queue := by
    have idle : accepted [.exchanged exchange] = [] ∧ begun [.exchanged exchange] = [] := ⟨rfl, rfl⟩
    rw [accepted_append, begun_append, idle.1, idle.2, List.append_nil, List.append_nil, loop.queue]
  waits := loop.waits
  going := loop.going
  gone := fun ended => absurd ended going

theorem Loop.finish (loop : Loop setup first desk past turns rested current left?)
    (resting : rested.activity = .resting books) (running : desk.phase = .running)
    (ends : desk.coordinator.finish? = some (head, result, next)) {phase : Phase}
    {inbox? : Option BlockRef} (started : phase ≠ .unstarted)
    (goes : phase = .running → isLast result = false ∧ inbox? = desk.inbox?)
    (dies : phase = .ended → isLast result = true) (lost : List BlockRef) :
    ∃ turns rested current left?, Loop setup first { desk with coordinator := next, phase, inbox? }
      (past ++ .finished head result :: lost.map .discarded) turns rested current left? := by
  obtain ⟨trace, whole, attends⟩ := loop.under.finish? resting ends
  have idle : accepted (.finished head result :: lost.map .discarded) = [] := by
    simp [accepted, Event.accepted?]
  have none : begun (.finished head result :: lost.map .discarded) = [] := by
    simp [begun, Event.begun?]
  have only : work (.finished head result :: lost.map .discarded) = [.finished head result] := by
    simp [work, List.filter_cons, List.filter_eq_nil_iff, Event.isWork]
  -- the head becomes one more turn, and its exchanges are all told
  refine ⟨turns ++ [⟨head, trace, result⟩], next, [], left?, ?_⟩
  constructor
  case untold => exact loop.untold
  case started => exact started
  case attends => exact loop.attends.trans attends
  case worked =>
    rw [work_append, loop.worked, only, List.append_assoc, whole, List.append_nil]
    simp
  case under => exact .resting
  case queue => rw [accepted_append, begun_append, idle, none]; simpa using loop.queue
  case waits => exact fun still => (goes still).2.trans (loop.waits running)
  case going =>
    intro still turn mem
    rcases List.mem_append.1 mem with mem | mem
    · exact loop.going running turn mem
    · obtain rfl := List.mem_singleton.1 mem
      exact (goes still).1
  case gone => exact fun ended => ⟨rfl, turns, _, rfl, loop.going running, dies ended⟩

theorem Loop.step (resting : first.activity = .resting books)
    (loop : Loop setup first desk past turns rested current left?) (calm : action.isCalm = true)
    (move : Move setup desk action last shown) :
    ∃ turns rested current left?,
      Loop setup first last (past ++ shown) turns rested current left? := by
  obtain ⟨atRest, -, same⟩ := (Coordinator.attends_iff resting).1 loop.attends
  have quiet : rested.activity = .resting atRest := by rw [same]
  -- a start or a shutdown is out of the question, the rest keeps to one of the rules above
  cases move with
  | handed unstarted | started unstarted => exact absurd unstarted loop.started
  | cancelled | closing | closedAgain => cases calm
  | stopped _ cancelled => rw [loop.untold] at cancelled; cases cancelled
  | accepted running free | letIn running free => exact ⟨_, _, _, _, loop.accept running free⟩
  | queuedUp | turnedAway | givenUp | refused | closeReturned =>
    exact ⟨_, _, _, _, loop.aside loop.untold rfl rfl rfl ⟨rfl, rfl, rfl⟩⟩
  | took running waiting began => exact ⟨_, _, _, _, loop.take running waiting began⟩
  | progressed going moved => exact ⟨_, _, _, _, loop.progress quiet going moved⟩
  | finished going goes ends =>
    have running : desk.phase = .running := by
      cases phase : desk.phase with
      | unstarted => exact absurd phase loop.started
      | ended => exact absurd phase going
      | running => rfl
    exact loop.finish quiet running ends loop.started (fun _ => ⟨goes running, rfl⟩)
      (fun ended => absurd ended going) []
  | died running dies ends =>
    refine loop.finish quiet running ends ?_ ?_ (fun _ => dies) desk.inbox?.toList
    · intro wrong; cases wrong
    · intro wrong; cases wrong

theorem run_loop (resting : first.activity = .resting books)
    (calm : ∀ action ∈ actions, action.isCalm = true)
    (run : run? setup { Desk.new books with coordinator := first } (.start :: actions) =
      some (desk, shown)) :
    ∃ turns rested current left?, Loop setup first desk shown turns rested current left? := by
  rw [run?_eq] at run
  obtain ⟨_, _, later, started, onward, rfl⟩ := Steps.run?_cons.1 run
  have begins : step? setup { Desk.new books with coordinator := first } .start =
      some (⟨first, .running, false, none, [], false, []⟩, []) :=
    step?_eq_some_iff.2 (.started rfl resting)
  rw [begins] at started
  cases started
  refine Steps.run_induction (fun actions desk shown => (∀ action ∈ actions, action.isCalm = true) →
    ∃ turns rested current left?, Loop setup first desk shown turns rested current left?)
    ?_ ?_ onward calm
  · intro _
    refine ⟨[], first, [], none, ?_⟩
    constructor
    case started => intro wrong; cases wrong
    case gone => intro wrong; cases wrong
    case attends => exact .nil
    case under => exact .resting
    case waits => exact fun _ => rfl
    case going => exact fun _ _ mem => absurd mem List.not_mem_nil
    all_goals rfl
  · intro actions middle past action last shown _ before stepped calm
    obtain ⟨turns, rested, current, left?, loop⟩ :=
      before fun action mem => calm action (List.mem_append_left _ mem)
    exact loop.step resting (calm action (by simp)) (Move.of_step? stepped)

/-! ## The end of the loop -/

/-- What becomes of the heads that are handed to a desk that has ended. -/
structure Over (setup : Setup) (desk : Desk) : Prop where
  /-- Whoever hands over a head is turned away at once, -/
  sends : ∀ call head, step? setup desk (.send call head) =
    some (desk, [.delivered call head false])
  /-- and so is everybody who waits. -/
  waiting : run? setup desk (List.replicate desk.waiting.length .refuse) =
    some ({ desk with waiting := [] },
      desk.waiting.map fun (call, head) => .delivered call head false)
  /-- Nothing is accepted or worked on, whatever else happens. -/
  onward : ∀ actions later shown, run? setup desk actions = some (later, shown) →
    later.phase = .ended ∧ accepted shown = [] ∧ work shown = []

theorem run?_refuse (ended : desk.phase = .ended) (calls : List (CallId × BlockRef)) :
    run? setup { desk with waiting := calls } (List.replicate calls.length .refuse) =
      some ({ desk with waiting := [] },
        calls.map fun (call, head) => .delivered call head false) := by
  rw [run?_eq]
  induction calls with
  | nil => rfl
  | cons entry rest ih =>
    have refused : step? setup { desk with waiting := entry :: rest } .refuse =
        some ({ desk with waiting := rest }, [.delivered entry.1 entry.2 false]) :=
      step?_eq_some_iff.2 (.refused ended rfl)
    exact Steps.run?_cons.2 ⟨_, _, _, refused, ih, rfl⟩

theorem over_of_ended (ended : desk.phase = .ended) : Over setup desk where
  sends _ _ := step?_eq_some_iff.2 (.turnedAway ended)
  waiting := run?_refuse ended desk.waiting
  onward actions later shown run := by
    rw [run?_eq] at run
    refine Steps.run_induction (fun _ later shown =>
      later.phase = .ended ∧ accepted shown = [] ∧ work shown = []) ⟨ended, rfl, rfl⟩ ?_ run
    rintro _ middle past action last shown _ ⟨ended, before, idle⟩ stepped
    obtain ⟨still, only⟩ := (Move.of_step? stepped).of_ended ended
    refine ⟨still, ?_, ?_⟩
    · rw [accepted_append, before, List.nil_append, accepted, List.filterMap_eq_nil_iff]
      intro event mem
      obtain ⟨_, _, rfl⟩ | ⟨_, rfl⟩ := only event mem
      · rfl
      · rfl
    · rw [work_append, idle, List.nil_append, work, List.filter_eq_nil_iff]
      intro event mem
      obtain ⟨_, _, rfl⟩ | ⟨_, rfl⟩ := only event mem
      · simp [Event.isWork]
      · simp [Event.isWork]

/-! ## The loop as a fold -/

theorem Move.exchanged (move : Move setup desk action last shown)
    (mem : .exchanged exchange ∈ shown) : action = .progress exchange := by
  cases move with
  | progressed =>
    obtain rfl : exchange = _ := by simpa using mem
    rfl
  | stopped =>
    unfold abandoned at mem
    split at mem <;> simp at mem
  | _ => simp at mem

theorem uncancelled_of_calm (calm : ∀ action ∈ actions, action.isCalm = true)
    (run : run? setup desk actions = some (last, shown)) {trace : List Exchange}
    (among : ∀ exchange ∈ trace, .exchanged exchange ∈ shown) : Uncancelled trace := by
  intro job mem
  rw [run?_eq] at run
  obtain ⟨_, action, _, _, done, stepped, mem⟩ := Steps.exists_of_mem_shown run (among _ mem)
  obtain rfl := (Move.of_step? stepped).exchanged mem
  cases calm _ done

theorem begun_work : begun (work shown) = begun shown := by
  unfold begun work
  rw [List.filterMap_filter]
  refine List.filterMap_congr fun event _ => ?_
  cases event <;> rfl

theorem begun_told (turn : Turn) : begun (told turn) = [turn.head] := by
  simp [begun, told, Event.begun?]

theorem begun_flatMap_told (turns : List Turn) :
    begun (turns.flatMap told) = turns.map Turn.head := by
  induction turns with
  | nil => rfl
  | cons turn rest ih => rw [List.flatMap_cons, begun_append, begun_told, ih]; rfl

theorem isLast_iff {before after : Books} {trace : List Exchange}
    (run : Program.Yields (Coordinator.process setup before head) trace (result, after))
    (uncancelled : Uncancelled trace) :
    isLast result = true ↔ (Turn.mk head trace result).Unreadable setup before after := by
  have stays := Coordinator.ne_cancelled run uncancelled
  refine Iff.trans ?_ (Coordinator.isFatal_iff run)
  cases result with
  | ok => simp [isLast]
  | error error => cases error <;> simp_all [isLast]

/-- A desk, after all it showed, has done what its coordinator does that is given the heads one
after the other: the turns are done, and of the head it is at this much was shown. -/
structure Serves (setup : Setup) (first : Coordinator) (books : Books) (desk : Desk)
    (shown : List Event) (turns : List Turn) (last : Books) (current : List Event) : Prop where
  /-- It takes the heads in the order in which they were accepted, each once. At most one of them
  waits to be taken, or was left behind at the end. -/
  in_order : ∃ left? : Option BlockRef,
    accepted shown = turns.map Turn.head ++ begun current ++ left?.toList
  /-- The work on a head is done before that on another begins. -/
  one_by_one : work shown = turns.flatMap told ++ current
  /-- Each head is processed on what the one before left behind, even if that failed. -/
  folds : Run setup books turns last
  carries : Under setup
    { first.noteAll (turns.flatMap Turn.trace) with activity := .resting last } current
    desk.coordinator
  /-- A desk that has not ended goes on with the next head. -/
  goes_on : desk.phase ≠ .ended → current = [] → ∀ head, desk.inbox? = some head →
    ∃ next, step? setup desk .take = some (next, [.began head])
  /-- A block that cannot be read is the end. -/
  stops : ∀ earlier turn later before after, turns = earlier ++ turn :: later →
    Program.Yields (Coordinator.process setup before turn.head) turn.trace (turn.result, after) →
    turn.Unreadable setup before after → later = [] ∧ current = [] ∧ desk.phase = .ended
  /-- There is no other end, and from then on every head fails whose block is not older. -/
  ended : desk.phase = .ended → current = [] ∧
    ∃ earlier turn before, turns = earlier ++ [turn] ∧ Run setup books earlier before ∧
      Program.Yields (Coordinator.process setup before turn.head) turn.trace (turn.result, last) ∧
      turn.Unreadable setup before last ∧
      ∀ head books trace result after, turn.head.time ≤ head.time →
        Program.Yields (Coordinator.process setup books head) trace (result, after) →
        result ≠ .ok ()
  quits : desk.phase = .ended → Over setup desk

/-- Whatever the collaborators answer and however the handing over and the work alternate, a desk
that nobody shuts down is a fold of the work on one head over the heads it accepted. -/
theorem loop_folds (resting : first.activity = .resting books)
    (calm : ∀ action ∈ actions, action.isCalm = true)
    (run : run? setup { Desk.new books with coordinator := first } (.start :: actions) =
      some (desk, shown)) :
    ∃ turns last current, Serves setup first books desk shown turns last current := by
  obtain ⟨turns, rested, current, left?, loop⟩ := run_loop resting calm run
  obtain ⟨last, folds, rfl⟩ := (Coordinator.attends_iff resting).1 loop.attends
  -- what was shown of a turn was shown by the desk, so that no offer in it was broken off
  have uncancelled : ∀ turn ∈ turns, Uncancelled turn.trace := by
    intro turn mem
    refine uncancelled_of_calm (List.forall_mem_cons.2 ⟨rfl, calm⟩) run fun exchange among => ?_
    have inTurn : Event.exchanged exchange ∈ told turn := by simp [told, among]
    have inWork : .exchanged exchange ∈ work shown := by
      rw [loop.worked]
      exact List.mem_append_left _ (List.mem_flatMap.2 ⟨turn, mem, inTurn⟩)
    exact List.mem_of_mem_filter inWork
  refine ⟨turns, last, current, ?_⟩
  constructor
  case in_order =>
    refine ⟨left?, ?_⟩
    rw [loop.queue, ← begun_work, loop.worked, begun_append, begun_flatMap_told]
  case one_by_one => exact loop.worked
  case folds => exact folds
  case carries => exact loop.under
  case goes_on =>
    rintro going rfl head waiting
    have running : desk.phase = .running := by
      cases phase : desk.phase with
      | unstarted => exact absurd phase loop.started
      | ended => exact absurd phase going
      | running => rfl
    obtain ⟨next, begins⟩ : ∃ next, desk.coordinator.begin? setup head = some next := by
      rw [loop.under.eq_rested]
      exact ⟨_, rfl⟩
    exact ⟨_, step?_eq_some_iff.2 (.took running waiting begins)⟩
  case stops =>
    rintro earlier turn later before after rfl own unreadable
    have fatal := (isLast_iff own (uncancelled turn (by simp))).2 unreadable
    cases phase : desk.phase with
    | unstarted => exact absurd phase loop.started
    | running =>
      have goes := loop.going phase turn (by simp)
      rw [fatal] at goes
      cases goes
    | ended =>
      obtain ⟨none, others, final, same, goes, -⟩ := loop.gone phase
      refine ⟨?_, none, rfl⟩
      -- all but the last of the turns go on
      cases later using List.reverseRecOn with
      | nil => rfl
      | append_singleton later other =>
        have split : (earlier ++ turn :: later) ++ [other] = others ++ [final] := by simpa using same
        obtain ⟨rfl, -⟩ := List.append_inj' split rfl
        have goes := goes turn (by simp)
        rw [fatal] at goes
        cases goes
  case ended =>
    intro ended
    obtain ⟨none, earlier, turn, rfl, -, fatal⟩ := loop.gone ended
    obtain ⟨before, past, final⟩ := Coordinator.run_append.1 folds
    cases final with
    | cons own onward =>
      cases onward
      have unreadable := (isLast_iff own (uncancelled turn (by simp))).1 fatal
      refine ⟨none, earlier, turn, before, rfl, past, own, unreadable, ?_⟩
      intro head _ _ _ _ later run
      exact Coordinator.ne_ok_of_blind (unreadable.2.later later) run
  case quits => exact over_of_ended

/-! ## A small loop -/

namespace Sample

open Coordinator.Sample (block challenger commitment respond)

/-- From time 5 on batches are in blobs, and there is nobody to ask for them. -/
def upgraded : Setup := { challenger with rollup := { challenger.rollup with ecotoneTime? := some 5 } }

/-- The provider does not follow to the first head. The second posts a commitment that is
challenged, and the third comes after the upgrade. -/
def days : List Turn :=
  (Coordinator.performAll upgraded (Books.new 4)
    [(block 100, fun
      | .advance _ => .error .activeChallenge
      | query => respond [] (.ok []) .queued query),
     (block 101, respond [commitment 7] (.error .pendingChallenge) .queued),
     ({ block 102 with time := 5 }, respond [] (.ok []) .queued)]).1

/-- The third head waits for the inbox until the second has been taken, a fourth is accepted before
the loop ends, and a fifth comes too late. -/
def course : List Action :=
  match days.map fun turn => turn.trace.map Action.progress with
  | [refused, challenged, unreadable] =>
    [.send 1 (block 100), .take, .send 2 (block 101), .send 3 { block 102 with time := 5 }] ++
    refused ++ [.finish, .take, .letIn] ++ challenged ++ [.finish, .take, .send 4 (block 103)] ++
    unreadable ++ [.finish, .send 5 (block 104)]
  | _ => []

end Sample

theorem loop_folds_until_unreadable :
    ∃ desk shown,
      run? Sample.upgraded (Desk.new (Books.new 4)) (.start :: Sample.course) =
        some (desk, shown) ∧
      desk.phase = .ended ∧
      ∃ turns last current, Serves Sample.upgraded (Coordinator.new (Books.new 4)) (Books.new 4)
        desk shown turns last current := by
  have resting : (Coordinator.new (Books.new 4)).activity = .resting (Books.new 4) := rfl
  have calm : ∀ action ∈ Sample.course, action.isCalm = true := by decide
  exact ⟨_, _, rfl, rfl, loop_folds resting calm rfl⟩

end Desk

end ChallengeGame
