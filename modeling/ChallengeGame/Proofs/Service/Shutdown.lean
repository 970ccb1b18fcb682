import ChallengeGame.Proofs.Coordinator.History
import ChallengeGame.Proofs.Service.Stages

/-!
# Stopping a service

A service is taken down from the front: the watch, then the desk, then the members of the crew.
Whatever it is at when a stop begins and however its parts go on meanwhile, nobody is handed
anything by a part that has exited, and when the stop returns there is nothing left that could do
anything.
-/

namespace ChallengeGame.Service

variable {setup : Setup} {service started last : Service} {books : Coordinator.Books}
  {action : Action} {actions later : List Action} {past shown fresh : List Event}

/-! ## All runs -/

theorem orderly_new (setup : Setup) (books : Coordinator.Books) :
    Orderly setup (new setup books) := by
  have fresh {kind : ActionKind} {member : Scheduler Job ExecutionQuery ExecutionQuery.Answer}
      (present : (new setup books).challenger.crew.get kind = some member) :
      member = Scheduler.new := by
    simp only [new, Challenger.new, Crew.new, PerKind.get_ofFn] at present
    split at present <;> simp_all
  have idle : Challenger.Idle (new setup books).challenger :=
    ⟨rfl, fun kind member present => by rw [fresh present]; rfl⟩
  refine ⟨⟨idle.linked, fun kind => ?_, fun _ => rfl, fun sending => ?_⟩, .built rfl ?_⟩
  · simp only [new, Challenger.new, Crew.new, PerKind.get_ofFn]
    split <;> simp_all
  · cases sending
  · intro kind member present
    rw [fresh present]
    rfl

theorem run_orderly (orderly : Orderly setup service)
    (run : run? setup service actions = some (last, shown)) :
    Orderly setup last ∧ Onward service last shown := by
  rw [run?_eq] at run
  refine Steps.run_induction (fun _ last shown => Orderly setup last ∧ Onward service last shown)
    ⟨orderly, .quiet id id (by simp)⟩ ?_ run
  rintro _ middle past action last shown _ ⟨orderly, before⟩ stepped
  obtain ⟨orderly, after⟩ := (Move.of_step? stepped).orderly orderly
  exact ⟨orderly, before.trans after⟩

theorem Move.ne_offer (move : Move setup service action last shown)
    (orderly : Orderly setup service) (ended : service.challenger.desk.phase = .ended) :
    action ≠ .challenger .offer := by
  cases move with
  | moved _ does =>
    rintro same
    cases same
    exact (does.ended orderly.linked ended).1 rfl
  | _ => simp

/-- Once the desk has ended, no job is offered to anybody. -/
theorem run_no_offer (orderly : Orderly setup service)
    (ended : service.challenger.desk.phase = .ended)
    (run : run? setup service actions = some (last, shown)) :
    ∀ action ∈ actions, action ≠ .challenger .offer := by
  rw [run?_eq] at run
  refine Steps.run_induction (fun actions _ _ => ∀ action ∈ actions, action ≠ .challenger .offer)
    (by simp) ?_ run
  intro actions middle past action last shown before none stepped
  rw [← run?_eq] at before
  obtain ⟨orderly, onward⟩ := run_orderly orderly before
  have own := (Move.of_step? stepped).ne_offer orderly (onward.desk ended).1
  simpa [or_imp, forall_and] using ⟨none, own⟩

/-! ## After a stop -/

theorem Move.of_stopped (move : Move setup service action last shown)
    (orderly : Orderly setup service) (stopped : service.stage = .stopped) :
    last = service ∧ (action = .stop ∨ action = .cancel ∨ ∃ now, action = .start now) := by
  have staged := orderly.staged
  rw [stopped] at staged
  cases staged with
  | stopped gone ended leaves still =>
    have free := orderly.free_of_gone gone
    -- the watch has no call under way, and no part of the challenger a move that is its own
    cases move with
    | refusedStart => exact ⟨rfl, .inr (.inr ⟨_, rfl⟩)⟩
    | cancelled => exact ⟨still, .inr (.inl rfl)⟩
    | stoppedAgain => exact ⟨rfl, .inl rfl⟩
    | watched _ quiet _ present moved =>
      obtain ⟨watch, again, exited⟩ := gone
      rw [present] at again
      cases again
      rw [HeadWatch.step?_of_stopped exited quiet] at moved
      cases moved
    | sent present delivering => exact absurd gone (not_gone_of_delivering present delivering)
    | withdrew sending => rw [free] at sending; cases sending
    | moved internal does =>
      rw [does.not_stopped orderly.toAttached (.stopped gone ended leaves still)] at internal
      cases internal
    | started other | stopping other | leftWatch other | leftDesk other | leftMember other =>
      rw [stopped] at other
      cases other

/-- A service after a stop. -/
structure Stopped (setup : Setup) (service : Service) : Prop where
  watch : WatchGone service
  desk : service.challenger.desk.phase = .ended
  crew : ∀ kind, setup.challenger.coordinator.takes kind = true →
    ∃ member, service.challenger.crew.get kind = some member ∧ member.lifecycle = .closed ∧
      member.worker = .stopped
  /-- Stopping again changes nothing, -/
  stop : step? setup service .stop = some (service, [.stopReturned])
  /-- and starting again is refused. -/
  start : ∀ now,
    step? setup service (.start now) = some (service, [.startReturned (.error .alreadyStarted)])
  /-- Nothing else happens: no tick and no poll, no question to the provider, to L1 or to the
  contract, and no transaction. -/
  rest : ∀ later last fresh, run? setup service later = some (last, fresh) →
    last = service ∧
      ∀ action ∈ later, action = .stop ∨ action = .cancel ∨ ∃ now, action = .start now

theorem stopped_of_stage (orderly : Orderly setup service) (stopped : service.stage = .stopped) :
    Stopped setup service := by
  have staged := orderly.staged
  rw [stopped] at staged
  cases staged with
  | stopped gone ended leaves =>
    constructor
    case watch => exact gone
    case desk => exact ended
    case crew =>
      intro kind taken
      have staffed := (orderly.staffed kind).trans taken
      obtain ⟨member, present⟩ := Option.isSome_iff_exists.1 staffed
      obtain ⟨-, out⟩ := leaves kind member present
      exact ⟨member, present, (out (by simp)).1, (out (by simp)).2 (by simp)⟩
    case stop => simp [step?, stop?, stopped]
    case start => intro now; simp [step?, start?, stopped]
    case rest =>
      intro later last fresh run
      rw [run?_eq] at run
      refine Steps.run_induction (fun later last _ => last = service ∧
        ∀ action ∈ later, action = .stop ∨ action = .cancel ∨ ∃ now, action = .start now)
        ⟨rfl, by simp⟩ ?_ run
      rintro actions middle past action last shown - ⟨rfl, before⟩ stepped
      obtain ⟨same, own⟩ := (Move.of_step? stepped).of_stopped orderly stopped
      refine ⟨same, fun action mem => ?_⟩
      rcases List.mem_append.1 mem with mem | mem
      · exact before action mem
      · rwa [List.mem_singleton.1 mem]

theorem Does.not_returned {action : Challenger.Action}
    (does : Does setup service action last shown) : .stopReturned ∉ shown := by
  obtain ⟨_, adopts⟩ := does
  cases adopts <;> simp

theorem returned_of_closeNext? {kinds : List ActionKind}
    (closes : service.closeNext? setup kinds = some (last, shown)) :
    last.stage ≠ .built ∧ (.stopReturned ∈ shown → last.stage = .stopped) := by
  rcases closeNext?_cases closes with ⟨-, rfl, -⟩ | ⟨_, _, _, -, -, does⟩
  · rw [cancel_of_started (by simp)]
    exact ⟨by simp, fun _ => rfl⟩
  · exact ⟨by simp [does.stage], fun mem => absurd mem does.not_returned⟩

theorem Move.returned (move : Move setup service action last shown)
    (begun : service.stage ≠ .built) :
    last.stage ≠ .built ∧ (.stopReturned ∈ shown → last.stage = .stopped) := by
  cases move with
  | started | stopping => exact ⟨by simp, by simp⟩
  | refusedStart | watched => exact ⟨begun, by simp⟩
  | sent _ _ _ does | withdrew _ does | moved _ does =>
    exact ⟨by rw [does.stage]; exact begun, fun mem => absurd mem does.not_returned⟩
  | cancelled => exact ⟨by rw [cancel_of_started begun]; exact begun, by simp⟩
  | stoppedAgain stage => exact ⟨begun, fun _ => stage.resolve_left begun⟩
  | leftWatch _ _ _ does =>
    exact ⟨by simp [does.stage], fun mem => absurd mem does.not_returned⟩
  | leftDesk _ does closes | leftMember _ does closes =>
    obtain ⟨further, returned⟩ := returned_of_closeNext? closes
    refine ⟨further, fun mem => returned ?_⟩
    exact (List.mem_append.1 mem).resolve_left does.not_returned

theorem run_returned (orderly : Orderly setup service) (begun : service.stage ≠ .built)
    (run : run? setup service actions = some (last, shown)) (returned : .stopReturned ∈ shown) :
    last.stage = .stopped := by
  rw [run?_eq] at run
  -- a service never comes back to where it was before its start, from where a stop returns at once
  refine (Steps.run_induction (fun _ last shown =>
    last.stage ≠ .built ∧ (.stopReturned ∈ shown → last.stage = .stopped)) ⟨begun, by simp⟩ ?_
    run).2 returned
  rintro _ middle past action last shown before ⟨begun, returned⟩ stepped
  have move := Move.of_step? stepped
  rw [← run?_eq] at before
  obtain ⟨further, now⟩ := move.returned begun
  refine ⟨further, fun mem => (List.mem_append.1 mem).elim (fun earlier => ?_) now⟩
  have stopped := returned earlier
  rw [(move.of_stopped (run_orderly orderly before).1 stopped).1, stopped]

/-! ## A stop -/

/-- A service in the course of a stop that has shown some events so far. -/
structure Shutdown (setup : Setup) (service : Service) (shown : List Event) : Prop where
  /-- A watch that has exited hands over no head. -/
  no_delivery : WatchGone service → ∀ later last fresh,
    run? setup service later = some (last, fresh) →
    ∀ call head, .challenger (.desk (.delivered call head true)) ∉ fresh
  /-- A desk that has ended offers no job to any member of the crew. -/
  no_offer : service.challenger.desk.phase = .ended → ∀ later last fresh,
    run? setup service later = some (last, fresh) →
    (∀ action ∈ later, action ≠ .challenger .offer) ∧
      ∀ event, .challenger event ∈ fresh → event.isOffer = false
  /-- A member is closed after both of them have ended. -/
  closes_last : ∀ kind member, service.challenger.crew.get kind = some member →
    member.lifecycle = .closed → WatchGone service ∧ service.challenger.desk.phase = .ended
  returned : .stopReturned ∈ shown → Stopped setup service

theorem closed_last (orderly : Orderly setup service) {kind : ActionKind}
    {member : Scheduler Job ExecutionQuery ExecutionQuery.Answer}
    (present : service.challenger.crew.get kind = some member)
    (closed : member.lifecycle = .closed) :
    WatchGone service ∧ service.challenger.desk.phase = .ended := by
  have staged := orderly.staged
  generalize service.stage = stage at staged
  have running (leaves : Leaves service.challenger.crew none ActionKind.all) : False := by
    have running := (leaves kind member present).1 (mem_all kind)
    rw [closed] at running
    cases running
  cases staged with
  | built _ idle =>
    rw [idle kind member present] at closed
    cases closed
  | running leaves | leavingWatch leaves | leavingDesk _ leaves => exact (running leaves).elim
  | leavingCrew gone ended | stopped gone ended => exact ⟨gone, ended⟩

/-- However the parts of a started service go on while it is stopped, each of them is left alone by
those that have exited before it, and nothing is left when the stop returns. -/
theorem shutdown_clean (run : run? setup (new setup books) actions = some (started, past))
    (running : started.stage = .running)
    (stopping : run? setup started (.stop :: later) = some (service, shown)) :
    Shutdown setup service shown := by
  obtain ⟨begun, -⟩ := run_orderly (orderly_new setup books) run
  obtain ⟨orderly, -⟩ := run_orderly begun stopping
  constructor
  case no_delivery =>
    intro gone later last fresh onward
    exact ((run_orderly orderly onward).2.watch gone).2
  case no_offer =>
    intro ended later last fresh onward
    exact ⟨run_no_offer orderly ended onward, ((run_orderly orderly onward).2.desk ended).2⟩
  case closes_last => exact fun kind member present closed => closed_last orderly present closed
  case returned =>
    intro returned
    exact stopped_of_stage orderly (run_returned begun (by simp [running]) stopping returned)

/-! ## A small stop -/

namespace Sample

open Coordinator.Sample (address commitment respond)

def challenging : Setup := ⟨⟨Coordinator.Sample.challenger, address⟩, 1000⟩

def head (number : UInt8) : BlockRef :=
  { Coordinator.Sample.block number.toUInt64 with hash := ⟨List.replicate 32 number, rfl⟩ }

def questions : List Coordinator.Exchange :=
  (Coordinator.perform Coordinator.Sample.challenger (Coordinator.Books.new 4) (head 100)
    (respond [commitment 7] (.error .pendingChallenge) .queued)).1.trace.take 3

/-- The first head is in work and its challenge is being carried out, the second head is in the
inbox, and the watch waits with the third. -/
def busy : List Action :=
  [.start 0, .watch (.tick 0), .watch (.answer (.head (head 100))), .send,
    .challenger (.desk .take)] ++
  questions.map (fun exchange => .challenger (.desk (.progress exchange))) ++
  [.challenger .offer, .challenger (.crew .challenge .take),
    .watch (.tick 1000), .watch (.answer (.head (head 101))), .send,
    .watch (.tick 2000), .watch (.answer (.head (head 102))), .send]

def leaving : List Action :=
  [.watch .stop, .proceed, .challenger (.desk .stop), .proceed,
    .challenger (.crew .challenge .stop), .proceed, .start 3000]

end Sample

theorem shutdown_clean_busy :
    ∃ started past service shown,
      run? Sample.challenging (new Sample.challenging (Coordinator.Books.new 4)) Sample.busy =
        some (started, past) ∧
      started.stage = .running ∧
      run? Sample.challenging started (.stop :: Sample.leaving) = some (service, shown) ∧
      .stopReturned ∈ shown ∧ Shutdown Sample.challenging service shown := by
  obtain ⟨started, past, service, shown, run, running, stopping, returned⟩ :
      ∃ started past service shown,
        run? Sample.challenging (new Sample.challenging (Coordinator.Books.new 4)) Sample.busy =
          some (started, past) ∧
        started.stage = .running ∧
        run? Sample.challenging started (.stop :: Sample.leaving) = some (service, shown) ∧
        .stopReturned ∈ shown := by
    refine ⟨_, _, _, _, rfl, rfl, rfl, ?_⟩
    simp
  exact ⟨started, past, service, shown, run, running, stopping, returned,
    shutdown_clean run running stopping⟩

end ChallengeGame.Service
