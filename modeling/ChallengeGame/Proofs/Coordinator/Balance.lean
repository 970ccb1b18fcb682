import ChallengeGame.Proofs.Coordinator.History
import ChallengeGame.Proofs.FollowUps

/-!
# The balance of a commitment

A commitment enters the coordinator when it is met in a block. From then on it is awaited
in the current round, tracked for a later head, or has come to an end, and what was met
once is never in two of these places. `Step.balance` says this of one deed and
`Reaches.balance` of a history.
-/

namespace ChallengeGame.Coordinator

def Subject.key (subject : Subject) : Table.Key :=
  Table.Key.of subject.block.number subject.commitment

def Fate.isFinal : Fate → Bool
  | .settled | .delivered _ => true
  | .undelivered | .interrupted => false

/-- How often a commitment is still to be looked at in the current round. -/
def Stage.awaited (key : Table.Key) : Stage → Nat
  | .looking _ _ subjects => subjects.countP fun subject => subject.key == key
  | .resting | .reading _ => 0

namespace Deed

/-- The commitments that a block yields. -/
def met : Deed → List Table.Key
  | read head _ (.ok entries) => (posted head (Batch.yielded entries)).map Subject.key
  | _ => []

def looksAt (key : Table.Key) : Deed → Bool
  | looked _ look => look.key == key
  | _ => false

def concludes (setup : Setup) (key : Table.Key) : Deed → Bool
  | looked _ look => look.key == key && (look.fate setup).isFinal
  | _ => false

end Deed

variable {setup : Setup} {key : Table.Key} {head : BlockRef} {books : Books} {look : Look}
  {moment later : Moment} {deed : Deed} {history : List Deed}

/-! ## One deed -/

theorem Deed.looksAt_of_starts (starts : deed.starts = true) : deed.looksAt key = false := by
  cases deed with
  | refused _ _ | entered _ | reset _ => rfl
  | _ => cases starts

theorem Deed.met_of_starts (starts : deed.starts = true) : deed.met = [] := by
  cases deed with
  | refused _ _ | entered _ | reset _ => rfl
  | _ => cases starts

theorem FollowUp.key_subject (followUp : FollowUp) :
    (FollowUp.subject followUp).key = followUp.key := rfl

theorem awaited_resting : Stage.resting.awaited key = 0 := rfl

theorem awaited_after (stage : Stage) (result : Except Error Unit) :
    (stage.after result).awaited key ≤ stage.awaited key := by
  cases result with
  | ok _ => exact Nat.le_refl _
  | error _ => exact Nat.zero_le _

theorem Look.count_enter (number : BlockNumber) :
    (look.enter setup number books).followUps.count key +
        (if look.key = key ∧ (look.fate setup).isFinal = true then 1 else 0) ≤
      books.followUps.count key + if look.key = key then 1 else 0 := by
  unfold Look.enter
  split
  · rename_i ends
    simp [ends, Fate.isFinal]
  · rename_i ends
    have tracked := @FollowUps.count_track_le books.followUps number look.block look.commitment
      (look.deadline setup) key
    simp only [ends, Fate.isFinal, Bool.false_eq_true, and_false, if_false, Nat.add_zero]
    exact tracked
  · split <;> split <;> simp_all

/-- What is awaited, tracked or has ended was met before. -/
theorem Step.balance (step : Step setup moment deed later) (key : Table.Key) :
    later.stage.awaited key + later.books.followUps.count key +
        (if deed.concludes setup key then 1 else 0) ≤
      moment.stage.awaited key + moment.books.followUps.count key + deed.met.count key := by
  cases step with
  | refuse _ => simp [Deed.concludes]
  | @enter books head =>
    -- what is handed out moves from the books to the round
    have handed := @FollowUps.count_due_le books.followUps head.number key
    simpa [Stage.awaited, Books.due, Deed.concludes, Deed.met, List.countP_map, Function.comp_def,
      FollowUp.key_subject] using handed
  | reset => simp [Stage.awaited, Books.clear, Deed.concludes]
  | @look books round head rest look =>
    -- one subject less is awaited, and the look itself gives at most that one back
    have entered := @Look.count_enter setup key books look head.number
    have after := @awaited_after key (.looking round head rest) (look.result setup)
    simp only [Stage.awaited, Deed.concludes, List.countP_cons, Bool.and_eq_true, beq_iff_eq] at *
    omega
  | tend _ _ => simp [Stage.awaited, Deed.concludes]
  | read _ =>
    simp [Stage.awaited, Deed.concludes, Deed.met, List.count_eq_countP, List.countP_map,
      Function.comp_def]
    omega
  | fail _ => simp [Stage.awaited, Deed.concludes]
  | leave => simp [Stage.awaited, Deed.concludes]

theorem Step.awaited_le (step : Step setup moment deed later) (going : deed.starts = false)
    (key : Table.Key) :
    later.stage.awaited key + (if deed.looksAt key then 1 else 0) ≤
      moment.stage.awaited key + deed.met.count key := by
  cases step with
  | refuse _ | enter | reset => simp [Deed.starts] at going
  -- the subject that is looked at is no longer awaited
  | @look books round head rest look =>
    have after := @awaited_after key (.looking round head rest) (look.result setup)
    have looked : Deed.looksAt key (.looked head look) = (look.key == key) := rfl
    rw [looked]
    simp only [Stage.awaited, List.countP_cons] at after ⊢
    omega
  | tend _ _ => simp [Stage.awaited, Deed.looksAt]
  | read _ =>
    simp [Stage.awaited, Deed.looksAt, Deed.met, List.count_eq_countP, List.countP_map,
      Function.comp_def]
  | fail _ => simp [Stage.awaited, Deed.looksAt]
  | leave => simp [Stage.awaited, Deed.looksAt]

theorem Step.awaited_pos (step : Step setup moment deed later) (looks : deed.looksAt key = true) :
    0 < moment.stage.awaited key := by
  cases step with
  | @look _ _ _ rest look =>
    have same : (look.key == key) = true := looks
    simp [Stage.awaited, same]
  | _ => cases looks

/-- Only a coordinator that can challenge or resolve starts, and it starts with empty books. -/
theorem start_eq_ok_iff :
    Coordinator.start setup = .ok books ↔
      (setup.takes .challenge = true ∨ setup.takes .resolve = true) ∧
        books = Books.new setup.retryInterval := by
  constructor
  · intro started
    unfold Coordinator.start at started
    split at started
    · rename_i able
      cases started
      exact ⟨by simpa using able, rfl⟩
    · cases started
  · rintro ⟨able, rfl⟩
    exact if_pos (by simpa using able)

theorem count_start (started : Coordinator.start setup = .ok books) :
    books.followUps.count key = 0 := by
  obtain ⟨_, rfl⟩ := start_eq_ok_iff.1 started
  exact FollowUps.count_new key setup.retryInterval

/-! ## Histories -/

theorem Reaches.balance (reaches : Reaches setup moment history later) (key : Table.Key) :
    later.stage.awaited key + later.books.followUps.count key +
        history.countP (Deed.concludes setup key) ≤
      moment.stage.awaited key + moment.books.followUps.count key +
        (history.flatMap Deed.met).count key := by
  induction reaches with
  | nil => simp
  | @snoc _ _ _ deed _ step ih =>
    have balance := step.balance key
    simp only [List.countP_append, List.countP_singleton, List.flatMap_append, List.count_append,
      List.flatMap_singleton]
    omega

theorem Reaches.awaited_le (reaches : Reaches setup moment history later)
    (going : ∀ deed ∈ history, deed.starts = false) (key : Table.Key) :
    later.stage.awaited key + history.countP (Deed.looksAt key) ≤
      moment.stage.awaited key + (history.flatMap Deed.met).count key := by
  induction reaches with
  | nil => simp
  | @snoc _ _ _ deed _ step ih =>
    have last := step.awaited_le (going deed (by simp)) key
    have earlier := ih fun deed mem => going deed (List.mem_append_left _ mem)
    simp only [List.countP_append, List.countP_singleton, List.flatMap_append, List.count_append,
      List.flatMap_singleton]
    omega

end ChallengeGame.Coordinator
