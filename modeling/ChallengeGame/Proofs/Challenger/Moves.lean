import ChallengeGame.Challenger
import ChallengeGame.Proofs.Desk.Moves
import ChallengeGame.Proofs.Scheduler.Moves

/-!
# What can happen to a challenger

`Move` lists what an action can do, in terms of the moves of the desk and of a member of the crew.
What becomes of a call of the coordinator is told in one place, `Adopts`: a member either shows
nothing of it, or it has an answer and the coordinator goes on.
-/

namespace ChallengeGame.Challenger

open Scheduler (CallId Enqueued)

/-- The challenger goes on after a member of its crew has shown some events. -/
inductive Adopts (challenger : Challenger) (kind : ActionKind) (own : List (Scheduler.Event Job)) :
    Challenger → List Event → Prop where
  | quiet :
      returned? own = none → Adopts challenger kind own challenger (own.map (.crew kind))
  | settled {result : Enqueued} {job : Job} {desk : Desk} {shown : List Desk.Event} :
      returned? own = some result → challenger.desk.wanted? = some job →
      challenger.desk.progress? ⟨.offer job, answer result⟩ = some (desk, shown) →
      Adopts challenger kind own { challenger with desk, offering := false }
        (own.map (.crew kind) ++ .offered job (answer result) :: shown.map .desk)

inductive Move (setup : Setup) (challenger : Challenger) :
    Action → Challenger → List Event → Prop where
  | desk {action : Desk.Action} {desk : Desk} {shown : List Desk.Event} :
      action ≠ .stop → (∀ job answer, action ≠ .progress ⟨.offer job, answer⟩) →
      Desk.Move setup.coordinator challenger.desk action desk shown →
      Move setup challenger (.desk action) { challenger with desk } (shown.map .desk)
  | stopped {desk : Desk} {shown : List Desk.Event} :
      Desk.Move setup.coordinator challenger.desk .stop desk shown →
      Move setup challenger (.desk .stop) { challenger.retract with desk } (shown.map .desk)
  /-- Nobody takes such jobs. -/
  | unwanted {job : Job} {desk : Desk} {shown : List Desk.Event} :
      challenger.offering = false → challenger.desk.wanted? = some job →
      challenger.crew.get job.kind = none →
      challenger.desk.progress? ⟨.offer job, .closed⟩ = some (desk, shown) →
      Move setup challenger .offer { challenger with desk, offering := false }
        (.offered job .closed :: shown.map .desk)
  | offered {job : Job} {member next : Scheduler Job ExecutionQuery ExecutionQuery.Answer}
      {own : List (Scheduler.Event Job)} {last : Challenger} {shown : List Event} :
      challenger.offering = false → challenger.desk.wanted? = some job →
      challenger.crew.get job.kind = some member →
      Scheduler.Move (Crew.setup setup.account job.kind) member (.schedule coordinatorCall job)
        next own →
      Adopts { challenger with
        offering := true, crew := challenger.crew.set job.kind (some next) } job.kind own last
        shown →
      Move setup challenger .offer last shown
  | interrupted {job : Job} {desk : Desk} {shown : List Desk.Event} :
      challenger.desk.wanted? = some job → challenger.desk.cancelled = true →
      canInterrupt job = true →
      challenger.desk.progress? ⟨.offer job, .cancelled⟩ = some (desk, shown) →
      Move setup challenger .interrupt { challenger.retract with desk, offering := false }
        (.offered job .cancelled :: shown.map .desk)
  | crew {kind : ActionKind} {action : Crew.Action}
      {member next : Scheduler Job ExecutionQuery ExecutionQuery.Answer}
      {own : List (Scheduler.Event Job)} {last : Challenger} {shown : List Event} :
      (∀ call job, action ≠ .schedule call job) → (∀ call, action ≠ .giveUp call) →
      challenger.crew.get kind = some member →
      Scheduler.Move (Crew.setup setup.account kind) member action next own →
      Adopts { challenger with crew := challenger.crew.set kind (some next) } kind own last shown →
      Move setup challenger (.crew kind action) last shown

variable {setup : Setup} {challenger last : Challenger} {action : Action} {shown : List Event}
  {kind : ActionKind} {own : List (Scheduler.Event Job)} {result : Coordinator.Offer}

theorem settle?_eq_some :
    challenger.settle? result = some (last, shown) ↔
      ∃ job desk own, challenger.desk.wanted? = some job ∧
        challenger.desk.progress? ⟨.offer job, result⟩ = some (desk, own) ∧
        last = { challenger with desk, offering := false } ∧
        shown = .offered job result :: own.map .desk := by
  simp only [settle?, Option.bind_eq_bind, Option.bind_eq_some_iff, Option.some.injEq,
    Prod.mk.injEq]
  constructor
  · rintro ⟨job, wanted, ⟨desk, own⟩, moved, rfl, rfl⟩
    exact ⟨job, desk, own, wanted, moved, rfl, rfl⟩
  · rintro ⟨job, desk, own, wanted, moved, rfl, rfl⟩
    exact ⟨job, wanted, (desk, own), moved, rfl, rfl⟩

theorem Adopts.of_adopt? {next : Scheduler Job ExecutionQuery ExecutionQuery.Answer}
    (adopted : challenger.adopt? kind (next, own) = some (last, shown)) :
    Adopts { challenger with crew := challenger.crew.set kind (some next) } kind own last shown := by
  unfold adopt? at adopted
  dsimp only at adopted
  split at adopted
  · rename_i result returned
    obtain ⟨⟨_, later⟩, settled, same⟩ := Option.map_eq_some_iff.1 adopted
    cases same
    obtain ⟨job, desk, exchanged, wanted, moved, rfl, rfl⟩ := settle?_eq_some.1 settled
    exact .settled returned wanted moved
  · rename_i returned
    cases adopted
    exact .quiet returned

@[simp] theorem retract_desk (challenger : Challenger) :
    challenger.retract.desk = challenger.desk := by
  unfold retract
  split <;> rfl

theorem Move.of_step? (stepped : challenger.step? setup action = some (last, shown)) :
    Move setup challenger action last shown := by
  unfold step? at stepped
  split at stepped
  · cases stepped
  · obtain ⟨⟨_, _⟩, stopped, same⟩ := Option.bind_eq_some_iff.1 stepped
    cases same
    obtain ⟨⟨desk, own⟩, moved, same⟩ := Option.bind_eq_some_iff.1 stopped
    cases same
    have moved : challenger.desk.step? setup.coordinator .stop = some (desk, own) := by
      rwa [retract_desk] at moved
    exact .stopped (Desk.Move.of_step? moved)
  · rename_i action noAnswer noStop
    obtain ⟨⟨desk, own⟩, moved, same⟩ := Option.bind_eq_some_iff.1 stepped
    cases same
    refine .desk noStop ?_ (Desk.Move.of_step? moved)
    rintro job answer rfl
    exact noAnswer _ _ rfl
  · obtain ⟨job, wanted, moved⟩ := Option.bind_eq_some_iff.1 stepped
    split at moved
    · cases moved
    · rename_i idle
      have idle : challenger.offering = false := by simpa using idle
      split at moved
      · rename_i absent
        obtain ⟨other, desk, own, again, progressed, rfl, rfl⟩ := settle?_eq_some.1 moved
        obtain rfl : job = other := by simpa [wanted] using again
        exact .unwanted idle wanted absent progressed
      · rename_i member present
        refine .offered idle wanted present ?_ (Adopts.of_adopt? moved)
        exact Scheduler.step?_eq_some_iff.1 rfl
  · obtain ⟨job, wanted, moved⟩ := Option.bind_eq_some_iff.1 stepped
    split at moved
    · rename_i told
      rw [Bool.and_eq_true] at told
      obtain ⟨other, desk, own, again, progressed, rfl, rfl⟩ := settle?_eq_some.1 moved
      rw [retract_desk] at again progressed
      obtain rfl : job = other := by simpa [wanted] using again
      exact .interrupted wanted told.1 told.2 progressed
    · cases moved
  · cases stepped
  · cases stepped
  · rename_i kind action noSchedule noGiveUp
    obtain ⟨member, present, moved⟩ := Option.bind_eq_some_iff.1 stepped
    obtain ⟨⟨next, own⟩, stepped, adopted⟩ := Option.bind_eq_some_iff.1 moved
    exact .crew noSchedule noGiveUp present (Scheduler.step?_eq_some_iff.1 stepped)
      (Adopts.of_adopt? adopted)

end ChallengeGame.Challenger
