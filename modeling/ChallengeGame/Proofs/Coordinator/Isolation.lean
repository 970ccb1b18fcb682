import ChallengeGame.Proofs.Coordinator.Attendance
import ChallengeGame.Proofs.Coordinator.Parallel
import ChallengeGame.Proofs.Coordinator.Persistence

/-!
# What a reorg leaves behind

When the provider answers a new head with a reorg, all that the coordinator knew is dropped
before the work on the head goes on. From there on a coordinator with a past does the same as one
that was started at this head, answer by answer, through any number of heads and reorgs. Of its
past it only keeps the highest block it acted on.
-/

namespace ChallengeGame.Coordinator

open Course
open Program (Likeness)

variable {setup : Setup} {head : BlockRef} {books other after before : Books}
  {trace : List Exchange} {result : Except Error Unit} {turn : Turn} {turns : List Turn}

theorem runs_reset :
    Runs (course setup head) before (⟨.advance head.id, .error .reorgRequired⟩ :: trace) result
        after ↔
      Runs (work setup head) before.clear trace result after := by
  show Runs (advance head >>= fun _ => work setup head) before _ result after ↔ _
  simp only [runs_bind, advance_runs]
  constructor
  · -- the answer to the advance decides, and it clears the books
    rintro (⟨_, between, first, second, split, ⟨origin, rfl, outcome⟩, tail⟩ |
      ⟨_, rfl, origin, split, outcome⟩)
    · cases split
      cases outcome
      exact tail
    · cases split
      cases outcome
  · intro tail
    exact .inl ⟨(), before.clear, _, trace, rfl, ⟨_, rfl, rfl⟩, tail⟩

theorem Run.of_reset (run : Run setup books (turn :: turns) after)
    (reset : turn.trace.head? = some ⟨.advance turn.head.id, .error .reorgRequired⟩)
    (same : books.clear = other.clear) : Run setup other (turn :: turns) after := by
  cases run with
  | cons first rest =>
    refine .cons ?_ rest
    obtain ⟨later, split⟩ := List.head?_eq_some_iff.1 reset
    have cleared : Runs (course setup turn.head) books turn.trace _ _ := first
    rw [split, runs_reset, same, ← runs_reset, ← split] at cleared
    exact cleared

theorem Run.clear (run : Run setup books turns after) : after.clear = books.clear := by
  obtain ⟨parts, told⟩ := run.told
  have interval : after.followUps.interval = books.followUps.interval := told.reaches.interval
  simp only [Books.clear, FollowUps.clear, interval]

theorem noteAll_eq (coordinator : Coordinator) (books : Books) :
    coordinator.noteAll trace =
      { (new books).noteAll trace with
        activity := coordinator.activity
        lastActed := max coordinator.lastActed ((new books).noteAll trace).lastActed
        gauge := max coordinator.gauge ((new books).noteAll trace).gauge } := by
  have lowest (block : BlockNumber) : max 0 block = block := by
    rw [← UInt64.toNat_inj, UInt64.toNat_max]
    exact Nat.zero_max _
  rw [lastActed_noteAll, gauge_noteAll, new, lowest, Nat.zero_max, ← lastActed_noteAll,
    ← gauge_noteAll, ← activity_noteAll]

def fresh (setup : Setup) : Coordinator := new (Books.new setup.retryInterval)

/-- From a reorg on, a coordinator that is started there can take the same turns, and it takes no
others as long as it gets the same answers. All that differs in the end is the highest block acted
on. -/
theorem reorg_isolates {former later : Coordinator} {history : List Turn}
    (past : Attends setup (fresh setup) history former)
    (onward : Attends setup former (turn :: turns) later)
    (reset : turn.trace.head? = some ⟨.advance turn.head.id, .error .reorgRequired⟩) :
    (∃ latest, Attends setup (fresh setup) (turn :: turns) latest) ∧
      ∀ (turns' : List Turn) (latest : Coordinator), Attends setup (fresh setup) turns' latest →
        (turn :: turns).map Turn.head = turns'.map Turn.head →
        (Likeness.equal Query Query.Answer).Agree ((turn :: turns).flatMap Turn.trace)
          (turns'.flatMap Turn.trace) →
        turns' = turn :: turns ∧
          later = { latest with
            lastActed := max former.lastActed latest.lastActed
            gauge := max former.gauge latest.gauge } := by
  obtain ⟨known, passed, rests⟩ := (attends_iff rfl).1 past
  have resting : former.activity = .resting known := by rw [rests]
  obtain ⟨_, run, rfl⟩ := (attends_iff resting).1 onward
  -- the reorg clears both books, and what is cleared is the same
  have own : Run setup (Books.new setup.retryInterval) (turn :: turns) _ :=
    run.of_reset reset passed.clear
  refine ⟨⟨_, (attends_iff rfl).2 ⟨_, own, rfl⟩⟩, ?_⟩
  intro turns' latest anew heads agree
  obtain ⟨_, run', rfl⟩ := (attends_iff rfl).1 anew
  obtain ⟨rfl, rfl⟩ := own.eq_of_agree run' heads agree
  rw [noteAll_eq former (Books.new setup.retryInterval)]
  exact ⟨rfl, rfl⟩

namespace Sample

def respondLost (posted : List Commitment) (offer : Offer) : Responder
  | .advance _ => .error .reorgRequired
  | query => respond posted (.error .pendingChallenge) offer query

/-- A commitment of block 100 waits for head 104, and one of block 103 was acted on. -/
def pastTasks : List (BlockRef × Responder) :=
  [(block 100, respond [commitment 7] (.error .pendingChallenge) .dropped),
    (block 103, respond [commitment 8] (.error .pendingChallenge) .queued)]

def branchTasks : List (BlockRef × Responder) :=
  [(block 102, respondLost [commitment 9] .dropped),
    (block 106, respond [] (.error .pendingChallenge) .queued)]

def past : List Turn × Coordinator :=
  attendAll challenger (fresh challenger) (Books.new 4) pastTasks

def onward : List Turn × Coordinator :=
  attendAll challenger past.2 (performAll challenger (Books.new 4) pastTasks).2 branchTasks

def anew : List Turn × Coordinator :=
  attendAll challenger (fresh challenger) (Books.new 4) branchTasks

end Sample

/-- At head 106 only the commitment of the new branch is looked at again. -/
theorem reorg_isolates_sample :
    (Sample.onward.1.map fun turn => turn.trace.filterMap offered?) =
        [[.challenge (Posting.of 102 (Sample.commitment 9))],
          [.challenge (Posting.of 102 (Sample.commitment 9))]] ∧
      (Sample.past.2.lastActed, Sample.anew.2.lastActed, Sample.onward.2.lastActed) =
        (103, 102, 103) ∧
      Sample.anew.1 = Sample.onward.1 := by
  have isolated := reorg_isolates (attends_attendAll rfl Sample.pastTasks)
    (attends_attendAll rfl Sample.branchTasks : Attends _ _ Sample.onward.1 Sample.onward.2) rfl
  have same := isolated.2 Sample.anew.1 Sample.anew.2 (attends_attendAll rfl Sample.branchTasks)
    rfl (Likeness.equal_agree _)
  exact ⟨rfl, rfl, same.1⟩

end ChallengeGame.Coordinator
