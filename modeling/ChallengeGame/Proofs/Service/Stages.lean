import ChallengeGame.Proofs.Scheduler.Closing
import ChallengeGame.Proofs.Service.Attachment

/-!
# The stages of a service

The stage of a service says which of its parts have exited. A stop takes it from stage to stage,
and whatever else happens meanwhile leaves it where it is.
-/

namespace ChallengeGame.Service

open Scheduler (CallId)

variable {setup : Setup} {service middle last : Service} {action : Action} {shown later : List Event}
  {kind : ActionKind} {left kinds : List ActionKind}

/-- Some members are still to be closed, and one may be on its way out. The others have left. -/
def Leaves (crew : Crew) (leaving? : Option ActionKind) (left : List ActionKind) : Prop :=
  ∀ kind member, crew.get kind = some member →
    (kind ∈ left → member.lifecycle = .running) ∧
      (kind ∉ left → member.lifecycle = .closed ∧
        (leaving? ≠ some kind → member.worker = .stopped))

inductive Staged (service : Service) : Stage → Prop where
  | built :
      service.watch? = none →
      (∀ kind member, service.challenger.crew.get kind = some member →
        member.lifecycle = .idle) →
      Staged service .built
  | running : Leaves service.challenger.crew none ActionKind.all → Staged service .running
  | leavingWatch :
      Leaves service.challenger.crew none ActionKind.all → Staged service .leavingWatch
  | leavingDesk :
      WatchGone service → Leaves service.challenger.crew none ActionKind.all →
      Staged service .leavingDesk
  | leavingCrew {kind : ActionKind} {others : List ActionKind} :
      WatchGone service → service.challenger.desk.phase = .ended → (kind :: others).Nodup →
      Leaves service.challenger.crew (some kind) others →
      Staged service (.leavingCrew kind others)
  | stopped :
      WatchGone service → service.challenger.desk.phase = .ended →
      Leaves service.challenger.crew none [] → service.cancel = service →
      Staged service .stopped

structure Orderly (setup : Setup) (service : Service) : Prop extends Attached setup service where
  staged : Staged service service.stage

theorem Leaves.keeps {before after : Crew} {leaving? : Option ActionKind}
    (leaves : Leaves before leaving? left) (keeps : Challenger.Keeps before after) :
    Leaves after leaving? left := by
  intro kind member present
  have steady := keeps kind
  rw [present] at steady
  generalize found : before.get kind = old at steady
  cases steady with
  | some steady =>
    obtain ⟨lifecycle, stays⟩ := steady
    rw [lifecycle]
    obtain ⟨running, closed⟩ := leaves kind _ found
    exact ⟨running, fun out => ⟨(closed out).1, fun other => stays ((closed out).2 other)⟩⟩

theorem Staged.keeps {stage : Stage} (staged : Staged service stage) (live : stage ≠ .stopped)
    (keeps : Challenger.Keeps service.challenger.crew last.challenger.crew)
    (unborn : service.watch? = none → last.watch? = none)
    (gone : WatchGone service → WatchGone last)
    (ended : service.challenger.desk.phase = .ended → last.challenger.desk.phase = .ended) :
    Staged last stage := by
  cases staged with
  | stopped => exact absurd rfl live
  | running leaves => exact .running (leaves.keeps keeps)
  | leavingWatch leaves => exact .leavingWatch (leaves.keeps keeps)
  | leavingDesk out leaves => exact .leavingDesk (gone out) (leaves.keeps keeps)
  | leavingCrew out late nodup leaves =>
    exact .leavingCrew (gone out) (ended late) nodup (leaves.keeps keeps)
  | built none idle =>
    refine .built (unborn none) fun kind member present => ?_
    have steady := keeps kind
    rw [present] at steady
    generalize found : service.challenger.crew.get kind = old at steady
    cases steady with
    | some steady => exact steady.1.trans (idle kind _ found)

theorem mem_all (kind : ActionKind) : kind ∈ ActionKind.all := by
  cases kind <;> decide

/-! ## The shutdown signal -/

theorem steady_cancel (member : Scheduler Job ExecutionQuery ExecutionQuery.Answer) :
    Challenger.Steady member member.cancel := by
  unfold Scheduler.cancel
  split <;> exact ⟨rfl, id⟩

theorem waiting_cancel (member : Scheduler Job ExecutionQuery ExecutionQuery.Answer) :
    member.cancel.waiting = member.waiting := by
  unfold Scheduler.cancel
  split <;> rfl

theorem cancel_cancel (member : Scheduler Job ExecutionQuery ExecutionQuery.Answer) :
    member.cancel.cancel = member.cancel := by
  cases lifecycle : member.lifecycle <;> simp [Scheduler.cancel, lifecycle]

theorem cancel_twice (service : Service) : service.cancel.cancel = service.cancel := by
  obtain ⟨challenger, watch?, sending, stage, cancelled⟩ := service
  cases stage with
  | built => rfl
  | _ =>
    simp only [cancel, PerKind.map, Option.map_map, Function.comp_def, cancel_cancel]

theorem cancel_of_started (started : service.stage ≠ .built) :
    service.cancel =
      { service with
        cancelled := true
        challenger := { service.challenger with
          desk := { service.challenger.desk with cancelled := true }
          crew := service.challenger.crew.map (·.map (·.cancel)) }
        watch? := service.watch?.map fun watch => { watch with cancelled := true } } := by
  unfold cancel
  split
  · exact absurd ‹_› started
  · rfl

theorem Attached.cancel (attached : Attached setup service) : Attached setup service.cancel := by
  by_cases started : service.stage = .built
  · simp only [Service.cancel, started]
    exact ⟨attached.linked, attached.staffed, attached.free, attached.sending⟩
  · rw [cancel_of_started started]
    constructor
    case linked =>
      refine ⟨attached.linked.offers, fun kind member present => ?_⟩
      exact Challenger.waiting_of_map waiting_cancel (attached.linked.waiting kind) present
    case staffed =>
      intro kind
      simpa using attached.staffed kind
    case free => exact attached.free
    case sending =>
      intro sending
      obtain ⟨watch, head, present, delivering, waiting⟩ := attached.sending sending
      exact ⟨{ watch with cancelled := true }, head, by simp [present], delivering, waiting⟩

theorem WatchGone.tell {service last : Service} (gone : WatchGone service)
    (told : last.watch? = service.watch?.map fun watch => { watch with cancelled := true }) :
    WatchGone last := by
  obtain ⟨watch, present, stopped⟩ := gone
  exact ⟨{ watch with cancelled := true }, by rw [told, present]; rfl, stopped⟩

theorem WatchGone.cancel (gone : WatchGone service) : WatchGone service.cancel := by
  by_cases started : service.stage = .built
  · simp only [Service.cancel, started]
    exact gone
  · exact gone.tell (by rw [cancel_of_started started])

theorem Orderly.cancel (orderly : Orderly setup service) : Orderly setup service.cancel := by
  refine ⟨orderly.toAttached.cancel, ?_⟩
  have staged := orderly.staged
  by_cases started : service.stage = .built
  · rw [started] at staged
    cases staged with
    | built absent idle =>
      simp only [Service.cancel, started]
      exact .built absent idle
  · have stage : service.cancel.stage = service.stage := by rw [cancel_of_started started]
    rw [stage]
    by_cases stopped : service.stage = .stopped
    -- after a stop everybody was told already
    · rw [stopped] at staged ⊢
      cases staged with
      | stopped gone ended leaves still =>
        rw [still]
        exact .stopped gone ended leaves still
    · refine staged.keeps stopped ?_ ?_ WatchGone.cancel ?_
      · rw [cancel_of_started started]
        exact Challenger.Keeps.map steady_cancel
      · intro absent
        rw [cancel_of_started started, absent]
        rfl
      · intro ended
        rw [cancel_of_started started]
        exact ended

theorem onward_cancel : Onward service service.cancel [] := by
  refine .quiet WatchGone.cancel (fun ended => ?_) (by simp)
  by_cases started : service.stage = .built
  · simpa only [Service.cancel, started] using ended
  · rw [cancel_of_started started]
    exact ended

/-! ## The next member -/

theorem Attached.restaged (attached : Attached setup service) (stage : Stage) :
    Attached setup { service with stage } :=
  ⟨attached.linked, attached.staffed, attached.free, attached.sending⟩

theorem Leaves.close {crew : Crew} {skipped others : List ActionKind}
    {next : Scheduler Job ExecutionQuery ExecutionQuery.Answer}
    (leaves : Leaves crew none (skipped ++ kind :: others))
    (absent : ∀ other ∈ skipped, crew.get other = none) (apart : kind ∉ others)
    (closed : next.lifecycle = .closed) :
    Leaves (crew.set kind (some next)) (some kind) others := by
  intro other member present
  by_cases here : other = kind
  · subst here
    rw [PerKind.get_set_self] at present
    cases present
    exact ⟨fun mem => absurd mem apart, fun _ => ⟨closed, by simp⟩⟩
  · rw [PerKind.get_set_of_ne _ _ here] at present
    obtain ⟨running, out⟩ := leaves other member present
    refine ⟨fun mem => running (by simp [mem]), fun none => ?_⟩
    have unlisted : other ∉ skipped ++ kind :: others := by
      intro mem
      rcases List.mem_append.1 mem with mem | mem
      · simp [absent other mem] at present
      · exact (List.mem_cons.1 mem).elim here none
    exact ⟨(out unlisted).1, fun _ => (out unlisted).2 (by simp)⟩

theorem Leaves.exit {crew : Crew} {member : Scheduler Job ExecutionQuery ExecutionQuery.Answer}
    (leaves : Leaves crew (some kind) left) (present : crew.get kind = some member)
    (stopped : member.worker = .stopped) : Leaves crew none left := by
  intro other found again
  obtain ⟨running, out⟩ := leaves other found again
  refine ⟨running, fun none => ⟨(out none).1, fun _ => ?_⟩⟩
  by_cases here : other = kind
  · subst here
    rw [present] at again
    cases again
    exact stopped
  · exact (out none).2 (by simpa using Ne.symm here)

theorem orderly_of_closeNext? (attached : Attached setup service) (gone : WatchGone service)
    (ended : service.challenger.desk.phase = .ended) (nodup : kinds.Nodup)
    (leaves : Leaves service.challenger.crew none kinds)
    (closes : service.closeNext? setup kinds = some (last, shown)) :
    Orderly setup last ∧ Onward service last shown := by
  rcases closeNext?_cases closes with ⟨absent, rfl, rfl⟩ | ⟨skipped, kind, others, rfl, absent, does⟩
  · have started : ({ service with stage := .stopped } : Service).stage ≠ .built := by simp
    have out : Leaves service.challenger.crew none [] := by
      intro kind member present
      have none : kind ∉ kinds := fun mem => by simp [absent kind mem] at present
      exact ⟨by simp, fun _ => (leaves kind member present).2 none⟩
    have onward : Onward { service with stage := .stopped }
        ({ service with stage := .stopped } : Service).cancel [.stopReturned] :=
      .quiet WatchGone.cancel (fun late => (onward_cancel.desk late).1) (by simp)
    refine ⟨⟨(attached.restaged .stopped).cancel, ?_⟩, ⟨onward.watch, onward.desk⟩⟩
    rw [cancel_of_started started]
    refine .stopped (gone.tell rfl) ended (out.keeps (Challenger.Keeps.map steady_cancel)) ?_
    rw [← cancel_of_started started]
    exact cancel_twice _
  -- the stage is set first, and then the member is told to close
  · have attached := attached.restaged (.leavingCrew kind others)
    have onward := does.onward attached (by simp) (by simp)
    refine ⟨⟨does.attached attached (by simp) (by simp), ?_⟩, ⟨onward.watch, onward.desk⟩⟩
    rw [does.stage]
    have nodup := (List.nodup_append.1 nodup).2.1
    refine .leavingCrew (onward.watch gone).1 (onward.desk ended).1 nodup ?_
    obtain ⟨_, next, _, present, moved, same⟩ := does.crew_eq
    rw [same]
    exact leaves.close absent (List.nodup_cons.1 nodup).1 (Challenger.closed_of_move moved).1

/-! ## Steps -/

/-- What neither closes a member nor is about the call of the watch keeps the stage. -/
theorem Does.orderly {action : Challenger.Action} (stage : Stage)
    (does : Does setup { service with stage } action last shown)
    (attached : Attached setup service) (staged : Staged { service with stage } stage)
    (live : stage ≠ .stopped) (noSend : ∀ call head, action ≠ .desk (.send call head))
    (kept : ∀ call, action ≠ .desk (.giveUp call))
    (noStart : ∀ kind cancelled, action ≠ .crew kind (.start cancelled))
    (noClose : ∀ kind call, action ≠ .crew kind (.close call)) :
    Orderly setup last ∧ Onward service last shown := by
  have attached := attached.restaged stage
  have onward := does.onward attached noSend kept
  refine ⟨⟨does.attached attached noSend kept, ?_⟩, ⟨onward.watch, onward.desk⟩⟩
  rw [does.stage]
  exact staged.keeps live (does.keeps attached.linked noStart noClose) does.unborn
    (fun gone => (onward.watch gone).1) fun ended => (onward.desk ended).1

theorem Does.orderly_of_alive {action : Desk.Action} {sending : Bool}
    (does : Does setup { service with sending } (.desk action) last shown)
    (alive : ¬ WatchGone service) (before : Orderly setup service) (after : Attached setup last) :
    Orderly setup last ∧ Onward service last shown := by
  have ended := fun ended => (does.ended before.linked ended).2
  refine ⟨⟨after, ?_⟩, ⟨fun gone => absurd gone alive, ended⟩⟩
  have live : service.stage ≠ .stopped := by
    intro stopped
    have staged := before.staged
    rw [stopped] at staged
    cases staged with
    | stopped gone => exact alive gone
  rw [does.stage]
  exact before.staged.keeps live (does.keeps before.linked (by simp) (by simp)) does.unborn
    (fun gone => absurd gone alive) fun late => (ended late).1

theorem Does.not_stopped {action : Challenger.Action}
    (does : Does setup service action last shown) (attached : Attached setup service)
    (staged : Staged service .stopped) : isInternal action = false := by
  cases staged with
  | stopped gone ended leaves =>
    have waiting := attached.free (attached.free_of_gone gone)
    have idle := attached.linked.idle_of_ended ended
    have none (job : Job) : service.challenger.desk.wanted? ≠ some job :=
      fun wanted => (Desk.wanted?_eq_some.1 wanted).1 ended
    obtain ⟨move, -⟩ := does
    cases move with
    | unwanted _ wanted | offered _ wanted | interrupted wanted => exact absurd wanted (none _)
    | stopped moved =>
      cases moved with
      | stopped running => rw [ended] at running; cases running
    | desk _ _ moved =>
      cases moved with
      | turnedAway | givenUp | cancelled | closing | closedAgain | closeReturned => rfl
      | refused _ waits => rw [waiting] at waits; cases waits
      | progressed going | finished going => exact absurd ended going
      | handed other | started other | accepted other | queuedUp other | letIn other | took other
      | died other | stopped other =>
        rw [ended] at other
        cases other
    | @crew kind action member next own _ _ noCall kept present moved adopts =>
      obtain ⟨-, out⟩ := leaves kind member present
      obtain ⟨closed, stopped⟩ := out (by simp)
      have none := idle.waiting kind member present
      -- a member that is closed and whose worker has stopped does not work
      obtain ⟨-, -, rest, -⟩ := moved.afterClose closed (stopped (by simp))
      cases moved with
      | turnedAway | admitted | queuedUp | dropped => exact absurd rfl (noCall _ _)
      | givenUp => exact absurd rfl (kept _)
      | letIn _ _ waits | refused _ waits => rw [none] at waits; cases waits
      | started | startedAgain | unheard | cancelled | closedIdle | closing | closedAgain
      | closeReturned => rfl
      | took | progressed | ended | died | stopped | interrupted => cases rest

theorem waiting_start (cancelled : Bool)
    (member : Scheduler Job ExecutionQuery ExecutionQuery.Answer) :
    (member.start cancelled).waiting = member.waiting := by
  unfold Scheduler.start
  split <;> rfl

theorem lifecycle_start {cancelled : Bool}
    {member : Scheduler Job ExecutionQuery ExecutionQuery.Answer}
    (idle : member.lifecycle = .idle) : (member.start cancelled).lifecycle = .running := by
  simp [Scheduler.start, idle]

theorem orderly_started {now : Nat} {desk : Desk} {own : List Desk.Event}
    (orderly : Orderly setup service) (built : service.stage = .built)
    (started : Desk.start? { service.challenger.desk with cancelled := service.cancelled } =
      some (desk, own)) :
    service.challenger.desk.phase = .unstarted ∧ own = [] ∧
      Orderly setup
        { service with
          challenger := { service.challenger with
            desk, crew := service.challenger.crew.map (·.map (·.start service.cancelled)) }
          watch? := some { HeadWatch.new now with cancelled := service.cancelled }
          stage := .running } := by
  have attached := orderly.toAttached
  have staged := orderly.staged
  rw [built] at staged
  have moved : Desk.step? setup.challenger.coordinator
    { service.challenger.desk with cancelled := service.cancelled } .start = some (desk, own) := started
  cases staged with
  | built absent idle =>
    have free : service.sending = false := by
      by_contra sending
      obtain ⟨_, _, present, _⟩ := attached.sending (by simpa using sending)
      rw [absent] at present
      cases present
    cases Desk.Move.of_step? moved with
    | started unstarted resting =>
      -- a coordinator at rest offers nothing
      have resting : service.challenger.desk.coordinator.activity = .resting _ := resting
      have offering : service.challenger.offering = false := by
        by_contra offering
        obtain ⟨job, wanted⟩ := attached.linked.offers (by simpa using offering)
        obtain ⟨_, _, working⟩ :=
          Coordinator.wanted?_eq_some.1 (Desk.wanted?_eq_some.1 wanted).2
        rw [resting] at working
        cases working
      refine ⟨unstarted, rfl, ⟨⟨?_, ?_, attached.free, ?_⟩, .running ?_⟩⟩
      · refine Challenger.Idle.linked ⟨offering, fun kind member present => ?_⟩
        exact Challenger.waiting_of_map (waiting_start _)
          ((attached.linked.idle offering).waiting kind) present
      · intro kind
        simpa using attached.staffed kind
      · intro sending
        rw [free] at sending
        cases sending
      · intro kind member present
        rw [PerKind.get_map] at present
        obtain ⟨old, found, rfl⟩ := Option.map_eq_some_iff.1 present
        exact ⟨fun _ => lifecycle_start (idle kind old found), fun out => absurd (mem_all kind) out⟩

/-- The stage says what has ended, and what has ended does not come back. -/
theorem Move.orderly (move : Move setup service action last shown)
    (orderly : Orderly setup service) : Orderly setup last ∧ Onward service last shown := by
  have attached := orderly.toAttached
  have staged := orderly.staged
  cases move with
  | @started now desk own built started =>
    obtain ⟨unstarted, rfl, after⟩ := orderly_started orderly built started
    refine ⟨after, ⟨fun gone => ?_, fun ended => ?_⟩⟩
    · rw [built] at staged
      cases staged with
      | built absent =>
        obtain ⟨_, present, _⟩ := gone
        rw [absent] at present
        cases present
    · rw [unstarted] at ended
      cases ended
  | refusedStart => exact ⟨orderly, .quiet id id (by simp)⟩
  | stoppedAgain => exact ⟨orderly, .quiet id id (by simp)⟩
  | @watched action watch next seen taken quiet free present moved =>
    have alive : ¬ WatchGone service := by
      rintro ⟨other, again, stopped⟩
      rw [present] at again
      cases again
      rw [HeadWatch.step?_of_stopped stopped quiet] at moved
      cases moved
    -- while its call waits, the watch does nothing but take it back
    have free : service.sending = false := by
      by_contra sending
      have sending : service.sending = true := by simpa using sending
      obtain ⟨other, head, again, delivering, -⟩ := attached.sending sending
      rw [present] at again
      cases again
      rcases HeadWatch.of_delivering delivering moved with rfl | rfl | ⟨accepted, rfl⟩
      · exact quiet rfl
      · rw [free rfl] at sending; cases sending
      · exact taken accepted rfl
    have live : service.stage ≠ .stopped := by
      intro stopped
      rw [stopped] at staged
      cases staged with
      | stopped gone => exact alive gone
    refine ⟨⟨⟨attached.linked, attached.staffed, attached.free, ?_⟩, ?_⟩, ?_⟩
    · intro sending
      rw [free] at sending
      cases sending
    · refine staged.keeps live (Challenger.Keeps.refl _) ?_ (fun gone => absurd gone alive) id
      intro absent
      rw [absent] at present
      cases present
    · exact .quiet (fun gone => absurd gone alive) id (by simp)
  | sent present delivering free does =>
    exact does.orderly_of_alive (not_gone_of_delivering present delivering) orderly
      (does.attached_of_send attached free present delivering)
  | withdrew sending does =>
    have alive : ¬ WatchGone service := by
      intro gone
      rw [attached.free_of_gone gone] at sending
      cases sending
    exact does.orderly_of_alive alive orderly (does.attached_of_giveUp attached sending)
  | @moved action _ _ internal does =>
    by_cases stopped : service.stage = .stopped
    · rw [stopped] at staged
      rw [does.not_stopped attached staged] at internal
      cases internal
    · refine Does.orderly service.stage does attached staged stopped ?_ ?_ ?_ ?_
      all_goals
        intros
        rintro rfl
        cases internal
  | cancelled => exact ⟨orderly.cancel, onward_cancel⟩
  | stopping running =>
    rw [running] at staged
    cases staged with
    | running leaves =>
      refine ⟨⟨⟨attached.linked, attached.staffed, attached.free, ?_⟩, .leavingWatch leaves⟩, ?_⟩
      · intro sending
        obtain ⟨watch, head, present, delivering, waiting⟩ := attached.sending sending
        exact ⟨{ watch with cancelled := true }, head, by simp [present], delivering, waiting⟩
      · exact .quiet (fun gone => gone.tell rfl) id (by simp)
  | leftWatch leaving present stopped does =>
    rw [leaving] at staged
    cases staged with
    | leavingWatch leaves =>
      exact does.orderly _ attached (.leavingDesk ⟨_, present, stopped⟩ leaves) (by simp) (by simp)
        (by simp) (by simp) (by simp)
  -- the call of `close` returns, and with it the next member is closed
  | leftDesk leaving does closes =>
    have ended : service.challenger.desk.phase = .ended := by
      obtain ⟨move, -⟩ := does
      cases move with
      | desk _ _ moved =>
        cases moved with
        | closeReturned ended => exact ended
    obtain ⟨between, before⟩ := Does.orderly service.stage does attached staged
      (by simp [leaving]) (by simp) (by simp) (by simp) (by simp)
    have here := between.staged
    rw [does.stage, leaving] at here
    cases here with
    | leavingDesk gone leaves =>
      obtain ⟨orderly, after⟩ := orderly_of_closeNext? between.toAttached gone
        (before.desk ended).1 (by decide) leaves closes
      exact ⟨orderly, before.trans after⟩
  | @leftMember kind others middle _ _ _ leaving does closes =>
    obtain ⟨between, before⟩ := Does.orderly service.stage does attached staged
      (by simp [leaving]) (by simp) (by simp) (by simp) (by simp)
    rw [leaving] at staged
    cases staged with
    | leavingCrew gone ended nodup leaves =>
      obtain ⟨member, _, _, present, moved, -⟩ := does.crew_eq
      have exited : Leaves service.challenger.crew none others := by
        cases moved with
        | closeReturned stopped => exact leaves.exit present stopped
      have keeps := does.keeps attached.linked (by simp) (by simp)
      obtain ⟨orderly, after⟩ := orderly_of_closeNext? between.toAttached (before.watch gone).1
        (before.desk ended).1 (List.nodup_cons.1 nodup).2 (exited.keeps keeps) closes
      exact ⟨orderly, before.trans after⟩

end ChallengeGame.Service
