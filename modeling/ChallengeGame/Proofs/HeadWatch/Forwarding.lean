import ChallengeGame.Proofs.HeadWatch
import ChallengeGame.Proofs.Trace

/-!
# Every change of head is handed over once

Polls that fail or take too long are as good as none: the watch goes on as it was. So it hands over
the changes of head in their order, whatever lies between two reports, and it ends with the first
head that is not taken.
-/

namespace ChallengeGame.HeadWatch

/-! ## Polls -/

inductive Poll where
  | head (block : BlockRef)
  | failed (failure : Failure)
  | timedOut

def Poll.head? : Poll → Option BlockRef
  | .head block => some block
  | .failed _ | .timedOut => none

def poll? : Action → Option Poll
  | .answer (.head head) => some (.head head)
  | .answer (.failed failure) => some (.failed failure)
  | .giveUp _ => some .timedOut
  | _ => none

def polls (actions : List Action) : List Poll := actions.filterMap poll?

/-- What ends a watch: an answer that breaks it, a head that is not taken, or a shutdown. -/
inductive Ends : Action → Prop
  | aborted : Ends (.answer .aborted)
  | refused : Ends (.deliver false)
  | shutdown : Ends .stop

/-- What a run hands over, told by its polls alone. -/
structure Forwards (period now : Nat) (actions : List Action) (last : HeadWatch)
    (shown : List Event) : Prop where
  inOrder : delivered shown <+: changes ((polls actions).filterMap Poll.head?)
  /-- No change is left out: the one that was not handed over is lost or still on its way. -/
  complete : delivered shown ++ lost shown ++ last.outstanding =
    changes ((polls actions).filterMap Poll.head?)
  lost_last : ∀ before head after, shown = before ++ .lost head :: after →
    after = [] ∧ last.phase = .stopped
  unharmed : ∀ before action after poll, actions = before ++ action :: after →
    poll? action = some poll → poll.head? = none →
    ∃ since middle seen later, run? period (new now) before = some (middle, seen) ∧
      middle.phase = .asking since ∧
      run? period { middle with phase := .waiting } after = some (last, later) ∧
      shown = seen ++ later
  stopped_iff : last.phase = .stopped ↔ ∃ action ∈ actions, Ends action

section
variable {period now : Nat} {watch last middle : HeadWatch} {action : Action}
  {actions earlier rest : List Action} {shown before after : List Event} {poll : Poll}

theorem reported_eq (actions : List Action) :
    reported actions = (polls actions).filterMap Poll.head? := by
  rw [polls, List.filterMap_filterMap, reported]
  congr 1
  funext action
  cases action with
  | answer reading => cases reading <;> rfl
  | tick _ | giveUp _ | deliver _ | cancel | stop => rfl

theorem run?_append :
    run? period watch (earlier ++ rest) = some (last, shown) ↔
      ∃ middle seen later, run? period watch earlier = some (middle, seen) ∧
        run? period middle rest = some (last, later) ∧ shown = seen ++ later := by
  induction earlier generalizing watch shown with
  | nil =>
    constructor
    · intro run; exact ⟨watch, [], shown, rfl, run, rfl⟩
    · rintro ⟨_, _, later, ⟨⟩, run, rfl⟩; exact run
  | cons action earlier ih =>
    simp only [List.cons_append, run?_cons, ih]
    constructor
    · rintro ⟨next, own, _, move, ⟨middle, seen, later, first, second, rfl⟩, rfl⟩
      exact ⟨middle, own ++ seen, later, ⟨next, own, seen, move, first, rfl⟩, second, by simp⟩
    · rintro ⟨middle, _, later, ⟨next, own, seen, move, first, rfl⟩, second, rfl⟩
      exact ⟨next, own, seen ++ later, move, ⟨middle, seen, later, first, second, rfl⟩, by simp⟩

theorem Move.of_poll (move : Move period watch action middle shown)
    (polled : poll? action = some poll) (missing : poll.head? = none) :
    ∃ since, watch.phase = .asking since ∧ middle = { watch with phase := .waiting } ∧
      shown = [] := by
  cases move with
  | failed asking | gaveUp asking _ => exact ⟨_, asking, rfl, rfl⟩
  | found _ _ | unchanged _ _ => cases polled; cases missing
  | asked _ _ | aborted _ | delivered _ | refused _ | cancelled | stopped _ _ | interrupted _ _ =>
    cases polled

theorem Move.length_le (move : Move period watch action middle shown) : shown.length ≤ 1 := by
  cases move <;> simp

theorem Move.stopped_of_lost {head : BlockRef} (move : Move period watch action middle shown)
    (mem : .lost head ∈ shown) : middle.phase = .stopped := by
  cases move with
  | refused _ | interrupted _ _ => rfl
  | asked _ _ | found _ _ | delivered _ => cases List.mem_singleton.1 mem
  | unchanged _ _ | failed _ | aborted _ | gaveUp _ _ | cancelled | stopped _ _ => cases mem

theorem lost_last {head : BlockRef} (run : run? period watch actions = some (last, shown))
    (split : shown = before ++ .lost head :: after) : after = [] ∧ last.phase = .stopped := by
  induction actions generalizing watch shown before with
  | nil => cases run; simp at split
  | cons action rest ih =>
    obtain ⟨middle, own, later, move, onward, rfl⟩ := run?_cons.1 run
    rcases append_at.1 split with ⟨more, rfl, rfl⟩ | ⟨_, rfl, rfl⟩
    · -- no step shows anything else with a loss, and nothing is shown after it
      have single : more = [] := by
        have length := move.length_le
        rw [List.length_append, List.length_cons] at length
        exact List.eq_nil_of_length_eq_zero (by omega)
      have mem : Event.lost head ∈ before ++ .lost head :: more := by simp
      obtain ⟨-, rfl, phase⟩ := run_stopped (move.stopped_of_lost mem) onward
      exact ⟨by rw [single, List.append_nil], phase⟩
    · exact ih onward rfl

theorem Move.stopped_iff (running : watch.phase ≠ .stopped)
    (move : Move period watch action middle shown) : middle.phase = .stopped ↔ Ends action := by
  cases move with
  | aborted _ => exact iff_of_true rfl .aborted
  | refused _ => exact iff_of_true rfl .refused
  | stopped _ _ | interrupted _ _ => exact iff_of_true rfl .shutdown
  | cancelled => exact iff_of_false running nofun
  | asked _ _ | found _ _ | unchanged _ _ | failed _ | gaveUp _ _ | delivered _ =>
    exact iff_of_false nofun nofun

theorem stopped_iff (running : watch.phase ≠ .stopped)
    (run : run? period watch actions = some (last, shown)) :
    last.phase = .stopped ↔ ∃ action ∈ actions, Ends action := by
  induction actions generalizing watch shown with
  | nil => cases run; simp [running]
  | cons action rest ih =>
    obtain ⟨middle, own, later, move, onward, rfl⟩ := run?_cons.1 run
    rw [List.exists_mem_cons_iff]
    by_cases stopped : middle.phase = .stopped
    · obtain ⟨-, -, phase⟩ := run_stopped stopped onward
      exact iff_of_true phase (.inl ((move.stopped_iff running).1 stopped))
    · rw [ih stopped onward]
      exact (or_iff_right (mt (move.stopped_iff running).2 stopped)).symm

theorem forwards_of_run (run : run? period (new now) actions = some (last, shown)) :
    Forwards period now actions last shown where
  inOrder := by rw [← reported_eq]; exact delivered_isPrefix run
  complete := by rw [← reported_eq]; exact run_changes run
  lost_last _ _ _ := lost_last run
  unharmed := by
    rintro before action after poll rfl polled none
    obtain ⟨middle, seen, _, first, second, rfl⟩ := run?_append.1 run
    obtain ⟨_, _, later, move, onward, rfl⟩ := run?_cons.1 second
    -- the run goes on from a watch that knows no more than before
    obtain ⟨since, asking, rfl, rfl⟩ := move.of_poll polled none
    exact ⟨since, middle, seen, later, first, asking, onward, rfl⟩
  stopped_iff := stopped_iff (by simp [new]) run

/-! ## Every sequence of polls -/

theorem Move.run (move : Move period watch action middle before)
    (onward : run? period middle rest = some (last, after)) :
    run? period watch (action :: rest) = some (last, before ++ after) :=
  run?_cons.2 ⟨middle, before, after, move, onward, rfl⟩

theorem exists_poll (waiting : watch.phase = .waiting) (poll : Poll) :
    ∃ actions last shown, run? period watch actions = some (last, shown) ∧
      polls actions = [poll] ∧ last.phase = .waiting := by
  have asks : Move period watch (.tick watch.due) _ _ := .asked waiting (Nat.le_refl _)
  have stays (watch : HeadWatch) : run? period watch [] = some (watch, []) := rfl
  cases poll with
  | failed failure => exact ⟨_, _, _, asks.run (Move.run (.failed rfl) (stays _)), rfl, rfl⟩
  | timedOut =>
    exact ⟨_, _, _, asks.run (Move.run (.gaveUp rfl (Nat.le_refl _)) (stays _)), rfl, rfl⟩
  | head block =>
    by_cases same : watch.last? = some block.hash
    · exact ⟨_, _, _, asks.run (Move.run (.unchanged rfl same) (stays _)), rfl, rfl⟩
    · exact ⟨_, _, _,
        asks.run (Move.run (.found rfl same) (Move.run (.delivered rfl) (stays _))), rfl, rfl⟩

theorem exists_polls (waiting : watch.phase = .waiting) (asked : List Poll) :
    ∃ actions last shown, run? period watch actions = some (last, shown) ∧
      polls actions = asked ∧ last.phase = .waiting := by
  induction asked generalizing watch with
  | nil => exact ⟨[], watch, [], rfl, rfl, waiting⟩
  | cons poll asked ih =>
    obtain ⟨first, middle, seen, run, polled, still⟩ := exists_poll waiting poll
    obtain ⟨actions, last, later, onward, others, still⟩ := ih still
    refine ⟨first ++ actions, last, seen ++ later, ?_, ?_, still⟩
    · exact run?_append.2 ⟨middle, seen, later, run, onward, rfl⟩
    · rw [polls, List.filterMap_append]
      exact congrArg₂ (· ++ ·) polled others

theorem lost_eq_nil (run : run? period watch actions = some (last, shown))
    (waiting : last.phase = .waiting) : lost shown = [] := by
  refine List.filterMap_eq_nil_iff.2 fun event mem => ?_
  cases event with
  | lost head =>
    obtain ⟨_, _, split⟩ := List.append_of_mem mem
    obtain ⟨-, stopped⟩ := lost_last run split
    rw [waiting] at stopped
    cases stopped
  | asked | found _ | delivered _ => rfl

end

/-- Every run hands over the changes, and whatever the polls bring, a watch can go through all of
them. -/
theorem changes_forwarded (period now : Nat) :
    (∀ actions last shown, run? period (new now) actions = some (last, shown) →
      Forwards period now actions last shown) ∧
      ∀ asked : List Poll, ∃ actions last shown,
        run? period (new now) actions = some (last, shown) ∧ polls actions = asked ∧
          delivered shown = changes (asked.filterMap Poll.head?) ∧ last.phase = .waiting := by
  refine ⟨fun actions last shown run => forwards_of_run run, ?_⟩
  intro asked
  have ready : (new now).phase = .waiting := rfl
  obtain ⟨actions, last, shown, run, rfl, waiting⟩ := exists_polls ready asked
  have nothing : last.outstanding = [] := by rw [outstanding, waiting]
  have complete := (forwards_of_run run).complete
  rw [lost_eq_nil run waiting, nothing, List.append_nil, List.append_nil] at complete
  exact ⟨actions, last, shown, run, rfl, complete, waiting⟩

namespace Sample

/-- Block 100 is reported a second time after a failure, and block 102 is refused. -/
def troubled : List Action :=
  [.tick 0, .answer (.head (block 100)), .deliver true,
    .tick 1000, .answer (.failed ⟨"connection refused", []⟩),
    .tick 2000, .answer (.head (block 100)),
    .tick 3000, .giveUp 13000,
    .tick 13000, .answer (.head (block 101)), .deliver true,
    .tick 14000, .answer (.head (block 102)), .deliver false]

end Sample

theorem changes_forwarded_troubled :
    ∃ last shown, run? 1000 (new 0) Sample.troubled = some (last, shown) ∧
      delivered shown = [Sample.block 100, Sample.block 101] ∧ lost shown = [Sample.block 102] ∧
      Forwards 1000 0 Sample.troubled last shown :=
  ⟨_, _, rfl, rfl, rfl, (changes_forwarded 1000 0).1 Sample.troubled _ _ rfl⟩

end ChallengeGame.HeadWatch
