import ChallengeGame.Proofs.Coordinator.Once

/-!
# Tracked, delivered and settled

In a run that meets no commitment twice, a commitment is tracked, delivered or settled, but
never two of these at a time, and what was delivered or settled is never looked at again.
All of it follows from the balance of the commitment, which such a run meets at most once.
-/

namespace ChallengeGame.Coordinator

variable {setup : Setup} {books after : Books} {turns : List Turn}

/-! ## The commitment in a run -/

/-- How often a job about the commitment was taken. -/
def delivered (setup : Setup) (block : BlockNumber) (commitment : Commitment)
    (history : List Deed) : Nat :=
  (history.flatMap (Deed.exchanges setup)).countP
    (hands (disputes (Posting.of block commitment)))

/-- How often nothing had to be done about the commitment. -/
def settled (setup : Setup) (block : BlockNumber) (commitment : Commitment)
    (history : List Deed) : Nat :=
  history.countP (Deed.settles setup (Table.Key.of block commitment))

def Moment.tracked (block : BlockNumber) (commitment : Commitment) (moment : Moment) : Nat :=
  moment.books.followUps.count (Table.Key.of block commitment)

/-- The commitment is in at most one place at every moment of the run, rests once it was
delivered or settled, and is looked at at most once in a turn. -/
structure KeptApart (setup : Setup) (start : Moment) (turns : List Turn) (parts : List (List Deed))
    (block : BlockNumber) (commitment : Commitment) : Prop where
  apart : ∀ history rest moment, parts.flatten = history ++ rest →
    Reaches setup start history moment →
    moment.tracked block commitment + delivered setup block commitment history +
      settled setup block commitment history ≤ 1
  rests : ∀ history more rest moment later, parts.flatten = history ++ (more ++ rest) →
    Reaches setup start history moment → Reaches setup moment more later →
    0 < delivered setup block commitment history + settled setup block commitment history →
    later.tracked block commitment = 0 ∧
      ∀ exchange ∈ more.flatMap (Deed.exchanges setup),
        asks (Table.Key.of block commitment) exchange = false
  looked_once : ∀ turn ∈ turns, turn.trace.countP (asks (Table.Key.of block commitment)) ≤ 1
  delivered_once : (turns.flatMap Turn.trace).countP
    (hands (disputes (Posting.of block commitment))) ≤ 1

theorem delivered_add_settled (block : BlockNumber) (commitment : Commitment)
    (history : List Deed) :
    delivered setup block commitment history + settled setup block commitment history =
      history.countP (Deed.concludes setup (Table.Key.of block commitment)) := by
  rw [delivered, settled, countP_flatMap_hands, countP_concludes, Nat.add_comm]

/-- Every run of a fresh coordinator that meets nothing twice can be told, and however it is
told, it keeps every commitment apart, whatever is answered. -/
theorem kept_apart (started : Coordinator.start setup = .ok books)
    (run : Run setup books turns after) (once : MeetsOnce setup turns) :
    (∃ parts, Told setup books turns after parts) ∧
      ∀ parts, Told setup books turns after parts →
        ∀ block commitment, KeptApart setup ⟨.resting, books⟩ turns parts block commitment := by
  refine ⟨run.told, fun parts told block commitment => ⟨?_, ?_, ?_, ?_⟩⟩
  · intro history rest moment whole reached
    have balance := balance_le started once told whole reached (Table.Key.of block commitment)
    have ended := @delivered_add_settled setup block commitment history
    unfold Moment.tracked
    omega
  · intro history more rest moment later whole reached onward ended
    rw [delivered_add_settled] at ended
    have balance := balance_le started once told whole reached (Table.Key.of block commitment)
    have looked := Nat.lt_of_lt_of_le ended (countP_concludes_le history)
    obtain ⟨untracked, none⟩ := gone_for_good started once told whole looked (by omega) onward
    exact ⟨untracked, asks_eq_false none⟩
  · exact fun turn mem => turn_looks_le_one started once told mem _
  · -- the balance at the end of the run
    have whole : parts.flatten = parts.flatten ++ [] := (List.append_nil _).symm
    have balance := balance_le started once told whole told.reaches (Table.Key.of block commitment)
    have ended := @delivered_add_settled setup block commitment parts.flatten
    rw [delivered, told_exchanges told.tells] at ended
    omega

theorem kept_apart_sample :
    ∃ parts, Told Sample.challenger (Books.new 4) Sample.run.1 Sample.run.2 parts ∧
      delivered Sample.challenger 100 (Sample.commitment 7) parts.flatten = 1 ∧
      ∀ block commitment, KeptApart Sample.challenger ⟨.resting, Books.new 4⟩ Sample.run.1
        parts block commitment := by
  obtain ⟨⟨parts, told⟩, apart⟩ := kept_apart rfl (run_performAll _ _ _) Sample.meetsOnce
  refine ⟨parts, told, ?_, apart parts told⟩
  rw [delivered, told_exchanges told.tells]
  rfl

end ChallengeGame.Coordinator
