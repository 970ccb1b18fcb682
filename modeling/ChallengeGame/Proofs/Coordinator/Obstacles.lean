import ChallengeGame.Proofs.Blobs
import ChallengeGame.Proofs.Coordinator.Decisions

/-!
# What stops the work on a head

Without a shutdown, a head fails because the provider does not follow, or because its block
cannot be read to the end. The only failure after which a coordinator does not go on is that of a
block whose batches are in blobs, if there is nobody to ask for blobs: it can be told from the
time of the block alone, so that every later block fails as well.
-/

namespace ChallengeGame

namespace Batch

variable {rollup : Rollup} {hasBlobs : Bool} {block : BlockRef}
  {reading : List (Program.Exchange Query Query.Answer)}

/-- A block that is told in blobs cannot be read without somebody to ask for them. -/
def Blind (rollup : Rollup) (hasBlobs : Bool) (block : BlockRef) : Prop :=
  rollup.isEcotone block.time = true ∧ hasBlobs = false

theorem open_eq_missing {number : BlockNumber} :
    Source.open rollup hasBlobs block = .error (.missingBlobsFetcher number) ↔
      Blind rollup hasBlobs block ∧ number = block.number := by
  unfold Source.open Blind
  cases rollup.isEcotone block.time <;> cases hasBlobs <;> simp [eq_comm]

theorem open_error {cause : SourceError} (failed : Source.open rollup hasBlobs block = .error cause) :
    cause = .missingBlobsFetcher block.number := by
  unfold Source.open at failed
  split at failed
  · split at failed <;> cases failed
    rfl
  · cases failed

theorem loadBlobs_error {slots : List Slot} {cause : SourceError}
    (run : Program.Yields (loadBlobs block slots) reading (.error cause)) :
    ∃ failure, cause = .temporary failure := by
  rcases (yields_loadBlobs_iff rfl).1 run with ⟨_, _, wrong⟩ | ⟨_, fetched, _, same⟩
  · cases wrong
  · cases fetched with
    | error failure =>
      cases same
      exact ⟨_, rfl⟩
    | ok blobs =>
      simp only [received] at same
      split at same <;> cases same
      exact ⟨_, rfl⟩

theorem load_error {source : Source} {cause : SourceError} {number : BlockNumber}
    (run : Program.Yields source.load reading (.error cause)) :
    cause ≠ .missingBlobsFetcher number := by
  unfold Source.load at run
  obtain ⟨fetched, _, _, rfl, _, tail⟩ := Program.yields_bind.1 run
  cases fetched with
  | error error =>
    obtain ⟨_, same⟩ := Program.yields_done.1 tail
    cases same
    cases error <;> simp [SourceError.ofL1]
  | ok transactions =>
    simp only at tail
    split at tail
    · obtain ⟨failure, rfl⟩ := loadBlobs_error tail
      simp
    · obtain ⟨_, wrong⟩ := Program.yields_done.1 tail
      cases wrong

theorem entries_missing {fetched : Except SourceError (List Bytes)}
    (run : Program.Yields (entries rollup hasBlobs block) reading fetched) :
    (∃ number, fetched = .error (.missingBlobsFetcher number)) ↔ Blind rollup hasBlobs block := by
  unfold entries at run
  split at run
  · rename_i cause failed
    obtain ⟨rfl, rfl⟩ := Program.yields_done.1 run
    obtain rfl := open_error failed
    constructor
    · intro _; exact (open_eq_missing.1 failed).1
    · intro _; exact ⟨_, rfl⟩
  · rename_i source opened
    constructor
    · rintro ⟨number, rfl⟩
      exact absurd rfl (load_error run)
    · intro blind
      rw [open_eq_missing.2 ⟨blind, rfl⟩] at opened
      cases opened

theorem Blind.later {later : BlockRef} (blind : Blind rollup hasBlobs block)
    (after : block.time ≤ later.time) : Blind rollup hasBlobs later := by
  obtain ⟨upgraded, none⟩ := blind
  refine ⟨?_, none⟩
  unfold Rollup.isEcotone at upgraded ⊢
  split at upgraded
  · rename_i ecotone
    simp only [decide_eq_true_eq] at upgraded ⊢
    exact UInt64.le_trans upgraded after
  · cases upgraded

theorem fault?_eq {entries : List Bytes} {cause : SourceError}
    (fault : fault? entries = some cause) : cause = .notEnoughData := by
  induction entries with
  | nil => cases fault
  | cons entry rest ih =>
    unfold fault? at fault
    split at fault
    · cases fault; rfl
    · exact ih fault

end Batch

namespace Coordinator

variable {setup : Setup} {head : BlockRef} {before between after : Books} {trace : List Exchange}
  {result : Except Error Unit} {error : Error}

open Course

theorem Sweep.error_eq {subjects : List Subject} {looks : List Look}
    (swept : Sweep setup subjects looks (.error error)) : error = .cancelled := by
  generalize ended : (Except.error error : Except Error Unit) = result at swept
  induction swept with
  | nil => cases ended
  | cut _ => cases ended; rfl
  | cons _ _ ih => exact ih ended

/-! ## Up to the block -/

def approach (setup : Setup) (head : BlockRef) : Course Unit := do
  advance head
  handleFollowUps setup head.number (← takeDue head.number)
  unlock setup head.number
  withdraw setup head.number

theorem course_eq (setup : Setup) (head : BlockRef) :
    course setup head = (approach setup head >>= fun _ => readBlock setup head) := by
  simp [course, approach]

theorem approach_error (run : Runs (approach setup head) before trace (.error error) after) :
    (∃ cause, error = .advanceOrigin head.number cause) ∨
      error = .cancelled ∧ ¬ Uncancelled trace := by
  rcases runs_bind.1 run with ⟨_, _, _, _, rfl, _, tail⟩ | ⟨_, same, moved⟩
  · -- of what follows, only a look can fail
    have tail := runs_modifyGet_bind.1 tail
    rw [handleFollowUps_eq] at tail
    obtain ⟨_, _, _, _, rfl, _, tail⟩ | ⟨_, same, swept⟩ := runs_bind.1 tail
    · obtain ⟨_, _, _, _, rfl, _, withdrawn⟩ | ⟨_, _, unlocked⟩ := runs_bind.1 tail
      · obtain ⟨_, _, _, wrong, _⟩ := withdraw_runs.1 withdrawn
        cases wrong
      · obtain ⟨_, _, _, wrong, _⟩ := unlock_runs.1 unlocked
        cases wrong
    · cases same
      obtain ⟨looks, sweeps, rfl, rfl⟩ := sweep_runs.1 swept
      refine .inr ⟨sweeps.error_eq, fun uncancelled => ?_⟩
      cases (sweeps.covers uncancelled.of_append.2).2
  · cases same
    obtain ⟨origin, rfl, outcome⟩ := advance_runs.1 moved
    match origin with
    | .ok _ | .error .reorgRequired => cases outcome
    | .error .activeChallenge | .error .pendingChallenge | .error .expiredChallenge
    | .error .missingPastWindow | .error (.other _) => cases outcome; exact .inl ⟨_, rfl⟩

/-- The work on a head came to its block, and ended as the reading of the block did. -/
def ReachesBlock (setup : Setup) (before : Books) (head : BlockRef) (trace : List Exchange)
    (result : Except Error Unit) (after : Books) : Prop :=
  ∃ between first rest, trace = first ++ rest ∧
    Runs (approach setup head) before first (.ok ()) between ∧
    Runs (readBlock setup head) between rest result after

theorem course_parts (run : Runs (course setup head) before trace result after) :
    ReachesBlock setup before head trace result after ∨
      (∃ cause, result = .error (.advanceOrigin head.number cause)) ∨
      result = .error .cancelled ∧ ¬ Uncancelled trace := by
  rw [course_eq] at run
  rcases runs_bind.1 run with ⟨_, between, first, rest, rfl, led, read⟩ | ⟨error, rfl, failed⟩
  · exact .inl ⟨between, first, rest, rfl, led, read⟩
  · rcases approach_error failed with ⟨cause, rfl⟩ | ⟨rfl, cancelled⟩
    · exact .inr (.inl ⟨cause, rfl⟩)
    · exact .inr (.inr ⟨rfl, cancelled⟩)

/-! ## The block -/

theorem readBlock_result (run : Runs (readBlock setup head) before trace result after) :
    (∃ number, result = .error (.source (.missingBlobsFetcher number))) ∧
        Batch.Blind setup.rollup setup.hasBlobs head ∨
      ¬ Batch.Blind setup.rollup setup.hasBlobs head ∧
        (result = .ok () ∨ result = .error .cancelled ∧ ¬ Uncancelled trace ∨
          ∃ cause, result = .error (.source cause) ∧
            ∀ number, cause ≠ .missingBlobsFetcher number) := by
  obtain ⟨reading, fetched, rest, reads, rfl, tail⟩ := readBlock_runs.1 run
  have missing := Batch.entries_missing reads
  cases fetched with
  | error cause =>
    obtain ⟨rfl, rfl, rfl⟩ := tail
    by_cases blind : Batch.Blind setup.rollup setup.hasBlobs head
    · obtain ⟨number, same⟩ := missing.2 blind
      cases same
      exact .inl ⟨⟨number, rfl⟩, blind⟩
    · refine .inr ⟨blind, .inr (.inr ⟨cause, rfl, ?_⟩)⟩
      rintro number rfl
      exact blind (missing.1 ⟨number, rfl⟩)
  | ok entries =>
    -- the entries are there, so the block is not one that only blobs tell
    have sighted : ¬ Batch.Blind setup.rollup setup.hasBlobs head := by
      intro blind
      obtain ⟨number, wrong⟩ := missing.2 blind
      cases wrong
    refine .inr ⟨sighted, ?_⟩
    obtain ⟨looks, swept, sweeps, rfl, rfl, _⟩ := walk_runs.1 tail
    cases swept with
    | error error =>
      refine .inr (.inl ⟨?_, fun uncancelled => ?_⟩)
      · rw [sweeps.error_eq]; rfl
      · cases (sweeps.covers uncancelled.of_append.2).2
    | ok _ =>
      cases fault : Batch.fault? entries with
      | none => exact .inl rfl
      | some cause =>
        obtain rfl := Batch.fault?_eq fault
        exact .inr (.inr ⟨_, rfl, by simp⟩)

theorem ReachesBlock.isFatal_iff (reaches : ReachesBlock setup before head trace result after) :
    (∃ error, result = .error error ∧ error.isFatal = true) ↔
      Batch.Blind setup.rollup setup.hasBlobs head := by
  obtain ⟨_, _, _, _, _, read⟩ := reaches
  rcases readBlock_result read with ⟨⟨number, rfl⟩, blind⟩ | ⟨sighted, ends⟩
  · exact iff_of_true ⟨_, rfl, rfl⟩ blind
  · refine iff_of_false ?_ sighted
    rintro ⟨error, rfl, fatal⟩
    rcases ends with wrong | ⟨wrong, _⟩ | ⟨cause, wrong, other⟩
    · cases wrong
    · cases wrong; cases fatal
    · cases wrong
      cases cause with
      | missingBlobsFetcher number => exact other number rfl
      | _ => cases fatal

/-! ## A head -/

/-- The work on a head is given up for good exactly if it comes to a block that cannot be read. -/
theorem isFatal_iff (run : Program.Yields (process setup before head) trace (result, after)) :
    (∃ error, result = .error error ∧ error.isFatal = true) ↔
      ReachesBlock setup before head trace result after ∧
        Batch.Blind setup.rollup setup.hasBlobs head := by
  constructor
  · rintro ⟨error, rfl, fatal⟩
    rcases course_parts run with reaches | ⟨cause, same⟩ | ⟨same, _⟩
    · exact ⟨reaches, reaches.isFatal_iff.1 ⟨error, rfl, fatal⟩⟩
    · cases same; cases fatal
    · cases same; cases fatal
  · rintro ⟨reaches, blind⟩
    exact reaches.isFatal_iff.2 blind

/-- Without a shutdown, nothing but such a block ends the work on a head for good. -/
theorem ne_cancelled (run : Program.Yields (process setup before head) trace (result, after))
    (uncancelled : Uncancelled trace) : result ≠ .error .cancelled := by
  rintro rfl
  rcases course_parts run with ⟨_, _, _, rfl, _, read⟩ | ⟨_, wrong⟩ | ⟨_, cancelled⟩
  · rcases readBlock_result read with ⟨⟨_, wrong⟩, _⟩ | ⟨_, wrong | ⟨_, cancelled⟩ | ⟨_, wrong, _⟩⟩
    · cases wrong
    · cases wrong
    · exact cancelled uncancelled.of_append.2
    · cases wrong
  · cases wrong
  · exact cancelled uncancelled

theorem ne_ok_of_blind (blind : Batch.Blind setup.rollup setup.hasBlobs head)
    (run : Program.Yields (process setup before head) trace (result, after)) : result ≠ .ok () := by
  rintro rfl
  rcases course_parts run with reaches | ⟨_, wrong⟩ | ⟨wrong, _⟩
  · obtain ⟨_, wrong, _⟩ := reaches.isFatal_iff.2 blind
    cases wrong
  · cases wrong
  · cases wrong

end Coordinator

end ChallengeGame
