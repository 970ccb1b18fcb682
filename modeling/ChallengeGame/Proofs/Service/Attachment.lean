import ChallengeGame.Proofs.Challenger.Calls
import ChallengeGame.Proofs.Service.Moves

/-!
# The parts of a service that wait for one another

The watch waits for its call to the desk, and the coordinator for its call to the crew. What belongs
together stays together, whatever happens, so that whoever has exited has left nothing behind.
-/

namespace ChallengeGame

namespace HeadWatch

variable {period : Nat} {watch next : HeadWatch} {action : Action} {seen : List Event}
  {head : BlockRef}

theorem step?_of_stopped (gone : watch.phase = .stopped) (quiet : action ≠ .cancel) :
    watch.step? period action = none := by
  cases action with
  | cancel => exact absurd rfl quiet
  | stop => simp only [step?, stop?, gone]; split <;> simp_all
  | _ => simp [step?, tick?, answer?, giveUp?, deliver?, gone]

theorem of_delivering (delivering : watch.phase = .delivering head)
    (moved : watch.step? period action = some (next, seen)) :
    action = .cancel ∨ action = .stop ∨ ∃ accepted, action = .deliver accepted := by
  cases action with
  | cancel => exact .inl rfl
  | stop => exact .inr (.inl rfl)
  | deliver accepted => exact .inr (.inr ⟨accepted, rfl⟩)
  | _ => simp [step?, tick?, answer?, giveUp?, delivering] at moved

end HeadWatch

namespace Desk

variable {setup : Coordinator.Setup} {desk last : Desk} {action : Action} {shown : List Event}

theorem Move.waiting (move : Move setup desk action last shown)
    (noSend : ∀ call head, action ≠ .send call head) (kept : ∀ call, action ≠ .giveUp call) :
    (∀ call head accepted, .delivered call head accepted ∉ shown) ∧ last.waiting = desk.waiting ∨
      ∃ entry accepted, shown = [.delivered entry.1 entry.2 accepted] ∧
        desk.waiting = entry :: last.waiting := by
  cases move with
  | accepted | queuedUp | turnedAway => exact absurd rfl (noSend _ _)
  | givenUp => exact absurd rfl (kept _)
  | letIn _ _ waiting | refused _ waiting => exact .inr ⟨_, _, rfl, waiting⟩
  | stopped =>
    refine .inl ⟨?_, rfl⟩
    unfold abandoned
    split <;> simp
  | _ => exact .inl ⟨by simp, rfl⟩

theorem progress?_eq_some {exchange : Coordinator.Exchange}
    (moved : desk.progress? exchange = some (last, shown)) :
    shown = [.exchanged exchange] ∧ last.waiting = desk.waiting := by
  unfold progress? at moved
  split at moved
  · cases moved
  · obtain ⟨_, _, same⟩ := Option.map_eq_some_iff.1 moved
    cases same
    exact ⟨rfl, rfl⟩

end Desk

namespace Service

open Scheduler (CallId)

variable {setup : Setup} {service middle last : Service} {action : Action} {shown later : List Event}
  {kind : ActionKind} {left kinds : List ActionKind}

/-! ## Calls of the watch -/

theorem delivered?_eq_none {own : List Challenger.Event} :
    delivered? own = none ↔ ∀ call head accepted, .desk (.delivered call head accepted) ∉ own := by
  unfold delivered?
  rw [List.findSome?_eq_none_iff]
  constructor
  · intro none call head accepted mem
    cases none _ mem
  · intro absent event mem
    cases event with
    | desk event =>
      cases event with
      | delivered call head accepted => exact absurd mem (absent call head accepted)
      | _ => rfl
    | _ => rfl

theorem waiting_of_adopts {challenger next : Challenger} {own : List (Scheduler.Event Job)}
    {shown : List Challenger.Event} (adopts : Challenger.Adopts challenger kind own next shown) :
    delivered? shown = none ∧ next.desk.waiting = challenger.desk.waiting := by
  cases adopts with
  | quiet => exact ⟨delivered?_eq_none.2 (by simp), rfl⟩
  | settled _ _ moved =>
    obtain ⟨rfl, same⟩ := Desk.progress?_eq_some moved
    exact ⟨delivered?_eq_none.2 (by simp), same⟩

theorem waiting_of_move {challenger next : Challenger} {action : Challenger.Action}
    {own : List Challenger.Event}
    (move : Challenger.Move setup.challenger challenger action next own)
    (noSend : ∀ call head, action ≠ .desk (.send call head))
    (kept : ∀ call, action ≠ .desk (.giveUp call)) :
    delivered? own = none ∧ next.desk.waiting = challenger.desk.waiting ∨
      ∃ entry accepted, delivered? own = some accepted ∧
        challenger.desk.waiting = entry :: next.desk.waiting := by
  have atDesk {action : Desk.Action} {desk : Desk} {shown : List Desk.Event}
      (moved : Desk.Move setup.challenger.coordinator challenger.desk action desk shown)
      (noSend : ∀ call head, action ≠ .send call head) (kept : ∀ call, action ≠ .giveUp call) :
      delivered? (shown.map .desk) = none ∧ desk.waiting = challenger.desk.waiting ∨
        ∃ entry accepted, delivered? (shown.map .desk) = some accepted ∧
          challenger.desk.waiting = entry :: desk.waiting := by
    rcases moved.waiting noSend kept with ⟨none, same⟩ | ⟨entry, accepted, rfl, waits⟩
    · exact .inl ⟨delivered?_eq_none.2 (by simpa using none), same⟩
    · exact .inr ⟨entry, accepted, rfl, waits⟩
  -- what the desk learns from the crew is an exchange, and delivers nothing
  cases move with
  | desk _ _ moved =>
    refine atDesk moved ?_ ?_
    · rintro call head rfl
      exact noSend _ _ rfl
    · rintro call rfl
      exact kept _ rfl
  | stopped moved => exact atDesk moved (by simp) (by simp)
  | unwanted _ _ _ moved =>
    obtain ⟨rfl, same⟩ := Desk.progress?_eq_some moved
    exact .inl ⟨delivered?_eq_none.2 (by simp), same⟩
  | interrupted _ _ _ moved =>
    obtain ⟨rfl, same⟩ := Desk.progress?_eq_some moved
    exact .inl ⟨delivered?_eq_none.2 (by simp), same⟩
  | offered _ _ _ _ adopts | crew _ _ _ _ adopts =>
    obtain ⟨none, same⟩ := waiting_of_adopts adopts
    exact .inl ⟨none, same⟩

/-! ## What belongs together -/

/-- The watch has exited. -/
def WatchGone (service : Service) : Prop :=
  ∃ watch, service.watch? = some watch ∧ watch.phase = .stopped

/-- The parts of the service that wait for one another belong together. -/
structure Attached (setup : Setup) (service : Service) : Prop where
  linked : service.challenger.Linked
  staffed : ∀ kind, (service.challenger.crew.get kind).isSome =
    setup.challenger.coordinator.takes kind
  free : service.sending = false → service.challenger.desk.waiting = []
  sending : service.sending = true → ∃ watch head, service.watch? = some watch ∧
    watch.phase = .delivering head ∧ service.challenger.desk.waiting = [(watchCall, head)]

/-- A part that has ended hands over nothing any more. -/
structure Onward (service last : Service) (shown : List Event) : Prop where
  watch : WatchGone service → WatchGone last ∧
    ∀ call head, .challenger (.desk (.delivered call head true)) ∉ shown
  desk : service.challenger.desk.phase = .ended → last.challenger.desk.phase = .ended ∧
    ∀ event, .challenger event ∈ shown → event.isOffer = false

theorem Onward.trans {own : List Event} (first : Onward service middle own)
    (second : Onward middle last later) : Onward service last (own ++ later) where
  watch gone := by
    obtain ⟨still, here⟩ := first.watch gone
    obtain ⟨last, there⟩ := second.watch still
    refine ⟨last, fun call head mem => ?_⟩
    exact (List.mem_append.1 mem).elim (here call head) (there call head)
  desk ended := by
    obtain ⟨still, here⟩ := first.desk ended
    obtain ⟨last, there⟩ := second.desk still
    refine ⟨last, fun event mem => ?_⟩
    exact (List.mem_append.1 mem).elim (here event) (there event)

theorem Onward.quiet (gone : WatchGone service → WatchGone last)
    (ended : service.challenger.desk.phase = .ended → last.challenger.desk.phase = .ended)
    (none : ∀ event, .challenger event ∉ shown) : Onward service last shown where
  watch out := ⟨gone out, fun _ _ => none _⟩
  desk late := ⟨ended late, fun event mem => absurd mem (none event)⟩

/-! ## Moves of the challenger -/

theorem isSome_of_move {challenger next : Challenger} {action : Challenger.Action}
    {own : List Challenger.Event}
    (move : Challenger.Move setup.challenger challenger action next own)
    (linked : challenger.Linked) (kind : ActionKind) :
    (next.crew.get kind).isSome = (challenger.crew.get kind).isSome := by
  by_cases member : ∃ kind own, action = .crew kind own
  · obtain ⟨other, own, rfl⟩ := member
    obtain ⟨member, moved, _, present, -, same⟩ := move.crew_eq
    rw [same]
    by_cases here : kind = other
    · subst here
      simp [present]
    · rw [PerKind.get_set_of_ne _ _ here]
  · have keeps := move.keeps linked (fun _ _ same => member ⟨_, _, same⟩)
      (fun _ _ same => member ⟨_, _, same⟩) kind
    generalize challenger.crew.get kind = before at keeps
    generalize next.crew.get kind = after at keeps
    cases keeps <;> rfl

theorem Attached.free_of_gone (attached : Attached setup service) (gone : WatchGone service) :
    service.sending = false := by
  by_contra sending
  obtain ⟨watch, present, stopped⟩ := gone
  obtain ⟨other, head, again, delivering, -⟩ := attached.sending (by simpa using sending)
  rw [present] at again
  cases again
  rw [stopped] at delivering
  cases delivering

namespace Does

variable {action : Challenger.Action}

theorem linked (does : Does setup service action last shown)
    (linked : service.challenger.Linked) : last.challenger.Linked := by
  obtain ⟨move, adopts⟩ := does
  cases adopts <;> exact move.linked linked

theorem isSome (does : Does setup service action last shown)
    (linked : service.challenger.Linked) (kind : ActionKind) :
    (last.challenger.crew.get kind).isSome = (service.challenger.crew.get kind).isSome := by
  obtain ⟨move, adopts⟩ := does
  cases adopts <;> exact isSome_of_move move linked kind

theorem stage (does : Does setup service action last shown) : last.stage = service.stage := by
  obtain ⟨_, adopts⟩ := does
  cases adopts <;> rfl

theorem unborn (does : Does setup service action last shown) (absent : service.watch? = none) :
    last.watch? = none := by
  obtain ⟨_, adopts⟩ := does
  cases adopts with
  | quiet => exact absent
  | told _ present =>
    rw [absent] at present
    cases present

theorem keeps (does : Does setup service action last shown) (linked : service.challenger.Linked)
    (noStart : ∀ kind cancelled, action ≠ .crew kind (.start cancelled))
    (noClose : ∀ kind call, action ≠ .crew kind (.close call)) :
    Challenger.Keeps service.challenger.crew last.challenger.crew := by
  obtain ⟨move, adopts⟩ := does
  cases adopts <;> exact move.keeps linked noStart noClose

theorem ended (does : Does setup service action last shown) (linked : service.challenger.Linked)
    (ended : service.challenger.desk.phase = .ended) :
    action ≠ .offer ∧ last.challenger.desk.phase = .ended ∧
      ∀ event, .challenger event ∈ shown → event.isOffer = false := by
  obtain ⟨move, adopts⟩ := does
  obtain ⟨quiet, still, none⟩ := move.of_ended linked ended
  cases adopts with
  | quiet => exact ⟨quiet, still, fun event mem => none event (by simpa using mem)⟩
  | told => exact ⟨quiet, still, fun event mem => none event (by simpa using mem)⟩

/-- What the challenger does of its own accord lets go of the call of the watch just when the watch
learns what became of its head. -/
theorem attached (does : Does setup service action last shown)
    (attached : Attached setup service) (noSend : ∀ call head, action ≠ .desk (.send call head))
    (kept : ∀ call, action ≠ .desk (.giveUp call)) : Attached setup last := by
  have linked := does.linked attached.linked
  have staffed : ∀ kind, (last.challenger.crew.get kind).isSome =
      setup.challenger.coordinator.takes kind :=
    fun kind => (does.isSome attached.linked kind).trans (attached.staffed kind)
  obtain ⟨move, adopts⟩ := does
  -- the watch is told just when its call has left the desk
  rcases waiting_of_move move noSend kept with ⟨none, same⟩ | ⟨entry, accepted, told, waits⟩
  · cases adopts with
    | told some => rw [none] at some; cases some
    | quiet =>
      refine ⟨linked, staffed, fun free => same.trans (attached.free free), fun sending => ?_⟩
      obtain ⟨watch, head, present, delivering, waiting⟩ := attached.sending sending
      exact ⟨watch, head, present, delivering, same.trans waiting⟩
  · cases adopts with
    | quiet none => rw [told] at none; cases none
    | told =>
      refine ⟨linked, staffed, fun _ => ?_, by simp⟩
      cases sending : service.sending with
      | false => rw [attached.free sending] at waits; cases waits
      | true =>
        obtain ⟨_, _, _, _, only⟩ := attached.sending sending
        rw [only] at waits
        exact (List.cons.inj waits).2.symm

theorem onward (does : Does setup service action last shown)
    (attached : Attached setup service) (noSend : ∀ call head, action ≠ .desk (.send call head))
    (kept : ∀ call, action ≠ .desk (.giveUp call)) : Onward service last shown where
  watch gone := by
    have idle := attached.free (attached.free_of_gone gone)
    obtain ⟨move, adopts⟩ := does
    rcases waiting_of_move move noSend kept with ⟨none, -⟩ | ⟨_, _, _, waits⟩
    · cases adopts with
      | told some => rw [none] at some; cases some
      | quiet =>
        refine ⟨gone, fun call head mem => delivered?_eq_none.1 none call head true ?_⟩
        simpa using mem
    · rw [idle] at waits
      cases waits
  desk ended := (does.ended attached.linked ended).2

end Does

theorem Does.crew_eq {action : Crew.Action}
    (does : Does setup service (.crew kind action) last shown) :
    ∃ member next own, service.challenger.crew.get kind = some member ∧
      Scheduler.Move (Crew.setup setup.challenger.account kind) member action next own ∧
      last.challenger.crew = service.challenger.crew.set kind (some next) := by
  obtain ⟨move, adopts⟩ := does
  cases adopts <;> exact move.crew_eq

/-! ## The watch hands over a head -/

theorem not_gone_of_delivering {watch : HeadWatch} {head : BlockRef}
    (present : service.watch? = some watch) (delivering : watch.phase = .delivering head) :
    ¬ WatchGone service := by
  rintro ⟨other, again, stopped⟩
  rw [present] at again
  cases again
  rw [delivering] at stopped
  cases stopped

theorem Does.attached_of_send {watch : HeadWatch} {head : BlockRef}
    (attached : Attached setup service) (free : service.sending = false)
    (present : service.watch? = some watch) (delivering : watch.phase = .delivering head)
    (does : Does setup { service with sending := true } (.desk (.send watchCall head)) last shown) :
    Attached setup last := by
  have linked := does.linked attached.linked
  have staffed : ∀ kind, (last.challenger.crew.get kind).isSome =
      setup.challenger.coordinator.takes kind :=
    fun kind => (does.isSome attached.linked kind).trans (attached.staffed kind)
  have idle := attached.free free
  obtain ⟨move, adopts⟩ := does
  cases move with
  | desk _ _ moved =>
    cases moved with
    | accepted | turnedAway =>
      cases adopts with
      | quiet none => cases none
      | told => exact ⟨linked, staffed, fun _ => idle, by simp⟩
    | queuedUp =>
      cases adopts with
      | told some => cases some
      | quiet =>
        refine ⟨linked, staffed, by simp, fun _ => ⟨watch, head, present, delivering, ?_⟩⟩
        simp [idle]

theorem Does.attached_of_giveUp (attached : Attached setup service)
    (sending : service.sending = true)
    (does : Does setup service (.desk (.giveUp watchCall)) last shown) : Attached setup last := by
  have linked := does.linked attached.linked
  have staffed : ∀ kind, (last.challenger.crew.get kind).isSome =
      setup.challenger.coordinator.takes kind :=
    fun kind => (does.isSome attached.linked kind).trans (attached.staffed kind)
  obtain ⟨_, _, _, _, waiting⟩ := attached.sending sending
  obtain ⟨move, adopts⟩ := does
  cases move with
  | desk _ _ moved =>
    cases moved with
    | givenUp =>
      cases adopts with
      | quiet none => cases none
      | told => exact ⟨linked, staffed, fun _ => by simp [waiting], by simp⟩

end Service

end ChallengeGame
