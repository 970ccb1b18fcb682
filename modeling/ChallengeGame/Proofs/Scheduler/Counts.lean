import ChallengeGame.Proofs.Scheduler.Moves

/-!
# What a scheduler counts

The tally of a scheduler says how many executions ended in which way and how many jobs were
dropped, and nothing else: what was shown determines it.
-/

namespace ChallengeGame.Scheduler

variable {Job Query : Type} {Answer : Query → Type} {setup : Setup Job Query Answer}
  {scheduler last : Scheduler Job Query Answer} {action : Action Job Query Answer}
  {actions : List (Action Job Query Answer)} {past shown : List (Event Job)}

/-- The results that are counted, in the order they occurred. -/
def recorded (shown : List (Event Job)) : List ActionResult :=
  shown.filterMap fun
    | .ended _ ending => ending.result?
    | .returned _ _ .dropped => some .dropped
    | _ => none

@[simp] theorem recorded_append (first second : List (Event Job)) :
    recorded (first ++ second) = recorded first ++ recorded second :=
  List.filterMap_append

theorem recorded_discarded : recorded scheduler.discarded = [] := by
  unfold discarded
  cases scheduler.slot? <;> rfl

theorem count_recordEnding (tally : Tally) (ending : Ending) (result : ActionResult) :
    (recordEnding tally ending).count result =
      tally.count result + ending.result?.toList.count result := by
  unfold recordEnding
  split
  · rename_i own same
    rw [Tally.count_record, same]
    simp [List.count_cons]
  · rename_i same
    rw [same]
    rfl

theorem Move.count_tally (move : Move setup scheduler action last shown) (result : ActionResult) :
    last.tally.count result = scheduler.tally.count result + (recorded shown).count result := by
  have quiet : scheduler.tally.count result =
      scheduler.tally.count result + (recorded scheduler.discarded).count result := by
    rw [recorded_discarded]
    rfl
  cases move with
  | dropped _ _ _ => rw [Tally.count_record]; simp [recorded, List.count_cons]
  | @ended job ending _ _ =>
    rw [count_recordEnding]
    cases ending <;> rfl
  | closedIdle _ =>
    rw [recorded_append, List.count_append, ← Nat.add_assoc, ← quiet]
    rfl
  -- the last event of the worker counts nothing
  | died _ | stopped _ _ | interrupted _ _ => exact quiet
  | _ => rfl

theorem run_count_tally [DecidableEq Query]
    (run : run? setup scheduler actions = some (last, shown)) (result : ActionResult) :
    last.tally.count result = scheduler.tally.count result + (recorded shown).count result := by
  refine run_induction (fun _ last shown =>
    last.tally.count result = scheduler.tally.count result + (recorded shown).count result)
    rfl ?_ run
  intro _ _ _ _ _ _ _ before move
  rw [move.count_tally, before, recorded_append, List.count_append, Nat.add_assoc]

end ChallengeGame.Scheduler
