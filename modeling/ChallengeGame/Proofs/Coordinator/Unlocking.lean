import ChallengeGame.Proofs.Challenge
import ChallengeGame.Proofs.Coordinator.Bonds

/-!
# Waiting for a challenge to end

A bond is locked until the end of both windows of its commitment, counted from the block of
the commitment. The challenge itself ends a resolve window after the block it was opened in,
which the coordinator never learns. The two ends are sums of different widths; here they are
compared as exact numbers, and no bond is offered before the challenge is over.
-/

namespace ChallengeGame.Coordinator

variable {setup : Setup} {block head : BlockNumber} {record : Challenge} {moment last : Moment}
  {history : List Deed} {exchange : Exchange} {posting : Posting} {answer : Offer} {deed : Deed}

/-! ## Two ends -/

theorem resolveDeadline_lt_iff :
    setup.resolveDeadline block < head ↔
      block.toNat + setup.challengeWindow.toNat + setup.resolveWindow.toNat < head.toNat := by
  have bound := head.toNat_lt_size
  rw [UInt64.lt_iff_toNat_lt, Setup.resolveDeadline, Setup.challengeDeadline,
    BlockNumber.toNat_later, BlockNumber.toNat_later]
  -- a sum that stopped is not passed by any head, and neither is the exact one
  omega

theorem not_active_of_late
    (early : record.startBlock.toNat ≤ block.toNat + setup.challengeWindow.toNat)
    (late : setup.resolveDeadline block < head) :
    record.statusAt head setup.resolveWindow ≠ .active := by
  rw [resolveDeadline_lt_iff] at late
  rw [Ne, Challenge.statusAt_eq_active_iff]
  omega

theorem late_iff_expired
    (latest : record.startBlock.toNat = block.toNat + setup.challengeWindow.toNat)
    (started : record.startBlock ≠ 0) (unresolved : record.resolvedBlock = 0) :
    setup.resolveDeadline block < head ↔ record.statusAt head setup.resolveWindow = .expired := by
  rw [resolveDeadline_lt_iff, Challenge.statusAt_eq_expired_iff, latest]
  exact ⟨fun late => ⟨started, unresolved, late⟩, fun expired => expired.2.2⟩

/-- A bond is eligible only once no challenge that was opened in time is active any more, and as
soon as the last that could be opened has expired. So in no run of a fresh coordinator a bond is
offered while a challenge of its commitment is active. -/
theorem unlocked_after_challenge (setup : Setup) :
    (∀ (ledger : BondLedger) (block head : BlockNumber) (commitment : Commitment)
      (record : Challenge), ledger.Keyed →
      record.startBlock.toNat ≤ block.toNat + setup.challengeWindow.toNat →
      let bonds := ledger.insert block commitment (setup.resolveDeadline block)
      ((block, Posting.of block commitment) ∈ bonds.eligible head →
        record.statusAt head setup.resolveWindow ≠ .active) ∧
      (record.startBlock.toNat = block.toNat + setup.challengeWindow.toNat →
        record.startBlock ≠ 0 → record.resolvedBlock = 0 →
        ((block, Posting.of block commitment) ∈ bonds.eligible head ↔
          record.statusAt head setup.resolveWindow = .expired))) ∧
    ∀ (books after : Books) (turns : List Turn), Coordinator.start setup = .ok books →
      Run setup books turns after → ∀ (head : BlockRef) (posting : Posting) (answer : Offer),
      (head, ⟨.offer (.unlock posting), answer⟩) ∈ turns.flatMap Turn.timeline →
      ∃ (block : BlockNumber) (commitment : Commitment), posting = Posting.of block commitment ∧
        ∀ record : Challenge,
          record.startBlock.toNat ≤ block.toNat + setup.challengeWindow.toNat →
          record.statusAt head.number setup.resolveWindow ≠ .active := by
  constructor
  · intro ledger block head commitment record keyed early
    dsimp only
    rw [keyed.mem_eligible_insert]
    exact ⟨not_active_of_late early, fun latest => late_iff_expired latest⟩
  · intro books after turns started run head posting answer mem
    obtain ⟨_, rfl⟩ := start_eq_ok_iff.1 started
    obtain ⟨parts, told⟩ := run.told
    rw [← told_timeline told.tells] at mem
    obtain ⟨pair, rfl, late⟩ := told.reaches.unlock_offered_late (accounts_new setup) mem
    exact ⟨pair.1, pair.2, rfl, fun record early => not_active_of_late early late⟩

def Sample.opened (start : Word) : Challenge :=
  ⟨Posting.of 100 (Sample.commitment 7), Sample.address, 1, start, 0⟩

/-- A commitment of block 100 waits for head 121. One that is so near the largest block that the
sums stop waits forever, as the challenge does. -/
theorem unlocked_after_challenge_sample :
    (100, Posting.of 100 (Sample.commitment 7)) ∈
        (BondLedger.empty.insert 100 (Sample.commitment 7) 120).eligible 121 ∧
      (Sample.opened 110).statusAt 121 10 ≠ .active ∧
      (0xFFFFFFFFFFFFFFFA, Posting.of 0xFFFFFFFFFFFFFFFA (Sample.commitment 7)) ∉
        (BondLedger.empty.insert 0xFFFFFFFFFFFFFFFA (Sample.commitment 7)
          0xFFFFFFFFFFFFFFFF).eligible 0xFFFFFFFFFFFFFFFF ∧
      (Sample.block 121, taken (.unlock (Posting.of 100 (Sample.commitment 7)))) ∈
        Sample.keptRun.1.flatMap Turn.timeline ∧
      ∃ (block : BlockNumber) (commitment : Commitment),
        Posting.of 100 (Sample.commitment 7) = Posting.of block commitment ∧
        ∀ record : Challenge, record.startBlock.toNat ≤ block.toNat + 10 →
          record.statusAt 121 10 ≠ .active := by
  obtain ⟨inLedger, inRun⟩ := unlocked_after_challenge Sample.keeper
  obtain ⟨ended, exactly⟩ := inLedger BondLedger.empty 100 121 (Sample.commitment 7)
    (Sample.opened 110) BondLedger.keyed_empty (by decide)
  have eligible := (exactly rfl (by decide) rfl).2 (by decide)
  have forever := (inLedger BondLedger.empty 0xFFFFFFFFFFFFFFFA 0xFFFFFFFFFFFFFFFF
    (Sample.commitment 7) (Sample.opened 0x10000000000000004) BondLedger.keyed_empty
    (by decide)).2 rfl (by decide) rfl
  have offered : (Sample.block 121, taken (.unlock (Posting.of 100 (Sample.commitment 7)))) ∈
      Sample.keptRun.1.flatMap Turn.timeline :=
    List.mem_flatMap.2 ⟨Sample.keptRun.1[2], List.getElem_mem _, List.mem_map.2
      ⟨_, mem_unlocked.1 (by decide), rfl⟩⟩
  exact ⟨eligible, ended eligible, fun early => absurd (forever.1 early) (by decide), offered,
    inRun _ _ _ rfl (run_performAll _ _ _) _ _ _ offered⟩

end ChallengeGame.Coordinator
