import ChallengeGame.Proofs.Challenger.Moves
import ChallengeGame.Proofs.Steps
import ChallengeGame.Service

/-!
# What can happen to a service

`Move` lists what an action can do. Whatever a service does to its challenger, or lets it do of its
own accord, goes through `Does`: the challenger moves, and if the call of the watch has an answer
then, the watch learns it at once.
-/

namespace ChallengeGame.Service

open Scheduler (CallId)

/-- The service goes on after its challenger has shown some events. -/
inductive Adopts (setup : Setup) (service : Service) (own : List Challenger.Event) :
    Service → List Event → Prop where
  | quiet :
      delivered? own = none → Adopts setup service own service (own.map .challenger)
  | told {accepted : Bool} {watch next : HeadWatch} {seen : List HeadWatch.Event} :
      delivered? own = some accepted → service.watch? = some watch →
      watch.step? setup.period (.deliver accepted) = some (next, seen) →
      Adopts setup service own { service with watch? := some next, sending := false }
        (own.map .challenger ++ seen.map .watch)

inductive Does (setup : Setup) (service : Service) (action : Challenger.Action) (last : Service)
    (shown : List Event) : Prop where
  | does {next : Challenger} {own : List Challenger.Event} :
      Challenger.Move setup.challenger service.challenger action next own →
      Adopts setup { service with challenger := next } own last shown →
      Does setup service action last shown

inductive Move (setup : Setup) (service : Service) : Action → Service → List Event → Prop where
  | started {now : Nat} {desk : Desk} {shown : List Desk.Event} :
      service.stage = .built →
      Desk.start? { service.challenger.desk with cancelled := service.cancelled } =
        some (desk, shown) →
      Move setup service (.start now)
        { service with
          challenger := { service.challenger with
            desk, crew := service.challenger.crew.map (·.map (·.start service.cancelled)) }
          watch? := some { HeadWatch.new now with cancelled := service.cancelled }
          stage := .running }
        ((shown.map fun event => .challenger (.desk event)) ++ [.startReturned (.ok ())])
  | refusedStart {now : Nat} :
      service.stage = .running ∨ service.stage = .stopped →
      Move setup service (.start now) service [.startReturned (.error .alreadyStarted)]
  | watched {action : HeadWatch.Action} {watch next : HeadWatch} {seen : List HeadWatch.Event} :
      (∀ accepted, action ≠ .deliver accepted) → action ≠ .cancel →
      (action = .stop → service.sending = false) → service.watch? = some watch →
      watch.step? setup.period action = some (next, seen) →
      Move setup service (.watch action) { service with watch? := some next } (seen.map .watch)
  | sent {watch : HeadWatch} {head : BlockRef} {last : Service} {shown : List Event} :
      service.watch? = some watch → watch.phase = .delivering head → service.sending = false →
      Does setup { service with sending := true } (.desk (.send watchCall head)) last shown →
      Move setup service .send last shown
  /-- The watch takes the call back that waits. -/
  | withdrew {last : Service} {shown : List Event} :
      service.sending = true → Does setup service (.desk (.giveUp watchCall)) last shown →
      Move setup service (.watch .stop) last shown
  | moved {action : Challenger.Action} {last : Service} {shown : List Event} :
      isInternal action = true → Does setup service action last shown →
      Move setup service (.challenger action) last shown
  | cancelled : Move setup service .cancel service.cancel []
  | stopping :
      service.stage = .running →
      Move setup service .stop
        { service with
          watch? := service.watch?.map fun watch => { watch with cancelled := true }
          stage := .leavingWatch } []
  | stoppedAgain :
      service.stage = .built ∨ service.stage = .stopped →
      Move setup service .stop service [.stopReturned]
  | leftWatch {watch : HeadWatch} {last : Service} {shown : List Event} :
      service.stage = .leavingWatch → service.watch? = some watch → watch.phase = .stopped →
      Does setup { service with stage := .leavingDesk } (.desk (.close stopCall)) last shown →
      Move setup service .proceed last shown
  | leftDesk {middle last : Service} {own later : List Event} :
      service.stage = .leavingDesk → Does setup service (.desk (.finishClose stopCall)) middle own →
      middle.closeNext? setup ActionKind.all = some (last, later) →
      Move setup service .proceed last (own ++ later)
  | leftMember {kind : ActionKind} {others : List ActionKind} {middle last : Service}
      {own later : List Event} :
      service.stage = .leavingCrew kind others →
      Does setup service (.crew kind (.finishClose stopCall)) middle own →
      middle.closeNext? setup others = some (last, later) →
      Move setup service .proceed last (own ++ later)

variable {setup : Setup} {service last : Service} {action : Action} {shown : List Event}

theorem Does.of_challenger? {action : Challenger.Action}
    (moved : service.challenger? setup action = some (last, shown)) :
    Does setup service action last shown := by
  obtain ⟨⟨next, own⟩, stepped, adopted⟩ := Option.bind_eq_some_iff.1 moved
  refine .does (Challenger.Move.of_step? stepped) ?_
  unfold adopt? at adopted
  dsimp only at adopted
  split at adopted
  · rename_i none
    cases adopted
    exact .quiet none
  · rename_i accepted told
    simp only [Option.bind_eq_bind, Option.bind_eq_some_iff] at adopted
    obtain ⟨watch, present, ⟨next, seen⟩, delivered, same⟩ := adopted
    cases same
    exact .told told present delivered

theorem closeNext?_cases {kinds : List ActionKind}
    (closes : service.closeNext? setup kinds = some (last, shown)) :
    (∀ kind ∈ kinds, service.challenger.crew.get kind = none) ∧
        last = { service with stage := .stopped }.cancel ∧ shown = [.stopReturned] ∨
      ∃ skipped kind others, kinds = skipped ++ kind :: others ∧
        (∀ other ∈ skipped, service.challenger.crew.get other = none) ∧
        Does setup { service with stage := .leavingCrew kind others }
          (.crew kind (.close stopCall)) last shown := by
  induction kinds with
  | nil =>
    cases closes
    exact .inl ⟨by simp, rfl, rfl⟩
  | cons kind others ih =>
    unfold closeNext? at closes
    split at closes
    · exact .inr ⟨[], kind, others, rfl, by simp, Does.of_challenger? closes⟩
    · rename_i absent
      have absent : service.challenger.crew.get kind = none := by simpa [Crew.takes] using absent
      rcases ih closes with ⟨none, done⟩ | ⟨skipped, next, rest, rfl, none, does⟩
      · exact .inl ⟨List.forall_mem_cons.2 ⟨absent, none⟩, done⟩
      · exact .inr ⟨kind :: skipped, next, rest, rfl, List.forall_mem_cons.2 ⟨absent, none⟩, does⟩

theorem Move.of_step? (stepped : service.step? setup action = some (last, shown)) :
    Move setup service action last shown := by
  cases action with
  | start now =>
    have same : service.start? now = some (last, shown) := stepped
    unfold start? at same
    split at same
    · rename_i built
      obtain ⟨⟨desk, own⟩, started, same⟩ := Option.bind_eq_some_iff.1 same
      cases same
      exact .started built started
    · cases same; exact .refusedStart (.inl ‹_›)
    · cases same; exact .refusedStart (.inr ‹_›)
    · cases same
  | watch action =>
    have move (taken : ∀ accepted, action ≠ .deliver accepted) (quiet : action ≠ .cancel)
        (free : action = .stop → service.sending = false)
        (moved : service.moveWatch? setup action = some (last, shown)) :
        Move setup service (.watch action) last shown := by
      simp only [moveWatch?, Option.bind_eq_bind, Option.bind_eq_some_iff] at moved
      obtain ⟨watch, present, ⟨next, seen⟩, moves, same⟩ := moved
      cases same
      exact .watched taken quiet free present moves
    cases action with
    | deliver | cancel => cases stepped
    | stop =>
      have same : service.stopWatch? setup = some (last, shown) := stepped
      unfold stopWatch? at same
      split at same
      · rename_i sending
        obtain ⟨watch, -, same⟩ := Option.bind_eq_some_iff.1 same
        split at same
        · exact .withdrew sending (Does.of_challenger? same)
        · cases same
      · rename_i free
        exact move (by simp) (by simp) (fun _ => by simpa using free) same
    | tick | answer | giveUp => exact move (by simp) (by simp) (by simp) stepped
  | send =>
    have same : service.send? setup = some (last, shown) := stepped
    unfold send? at same
    obtain ⟨watch, present, same⟩ := Option.bind_eq_some_iff.1 same
    split at same
    · rename_i delivering free
      exact .sent present delivering free (Does.of_challenger? same)
    · cases same
  | challenger action =>
    have same : (if isInternal action then service.challenger? setup action else none) =
      some (last, shown) := stepped
    split at same
    · exact .moved ‹_› (Does.of_challenger? same)
    · cases same
  | cancel => cases stepped; exact .cancelled
  | stop =>
    have same : service.stop? = some (last, shown) := stepped
    unfold stop? at same
    split at same
    · cases same; exact .stopping ‹_›
    · cases same; exact .stoppedAgain (.inl ‹_›)
    · cases same; exact .stoppedAgain (.inr ‹_›)
    · cases same
  | proceed =>
    have same : service.proceed? setup = some (last, shown) := stepped
    unfold proceed? at same
    split at same
    · obtain ⟨watch, present, same⟩ := Option.bind_eq_some_iff.1 same
      split at same
      · exact .leftWatch ‹_› present ‹_› (Does.of_challenger? same)
      · cases same
    · obtain ⟨⟨middle, own⟩, ended, same⟩ := Option.bind_eq_some_iff.1 same
      obtain ⟨⟨_, later⟩, closes, same⟩ := Option.bind_eq_some_iff.1 same
      cases same
      exact .leftDesk ‹_› (Does.of_challenger? ended) closes
    · obtain ⟨⟨middle, own⟩, ended, same⟩ := Option.bind_eq_some_iff.1 same
      obtain ⟨⟨_, later⟩, closes, same⟩ := Option.bind_eq_some_iff.1 same
      cases same
      exact .leftMember ‹_› (Does.of_challenger? ended) closes
    · cases same

theorem run?_eq (setup : Setup) (service : Service) (actions : List Action) :
    run? setup service actions = Steps.run? (step? setup) service actions := by
  induction actions generalizing service with
  | nil => rfl
  | cons action rest ih => simp only [run?, Steps.run?, ih]

end ChallengeGame.Service
