import ChallengeGame.Challenge

/-!
# When a challenge runs

The status of a record is read off exact sums: no block number comes near the largest word, so
that a sum that stops there is never mistaken for an early block.
-/

namespace ChallengeGame.Challenge

variable {record : Challenge} {reference : BlockNumber} {resolveWindow : UInt64}

theorem le_resolveEnd_iff :
    reference.toNat ≤
        (record.startBlock.saturatingAdd (BitVec.ofNat 256 resolveWindow.toNat)).toNat ↔
      reference.toNat ≤ record.startBlock.toNat + resolveWindow.toNat := by
  have bound := reference.toNat_lt_size
  have narrow := resolveWindow.toNat_lt
  have window : (BitVec.ofNat 256 resolveWindow.toNat).toNat = resolveWindow.toNat := by
    rw [BitVec.toNat_ofNat, Nat.mod_eq_of_lt (by omega)]
  -- where the sum stops it is still past every block
  have room : UInt64.size ≤ Word.size - 1 := by decide
  rw [Word.toNat_saturatingAdd, window]
  omega

theorem statusAt_eq_active_iff :
    record.statusAt reference resolveWindow = .active ↔
      record.startBlock ≠ 0 ∧ record.resolvedBlock = 0 ∧
        reference.toNat ≤ record.startBlock.toNat + resolveWindow.toNat := by
  simp only [statusAt, le_resolveEnd_iff]
  split
  · simp_all
  · split
    · simp_all
    · split <;> simp_all

theorem statusAt_eq_expired_iff :
    record.statusAt reference resolveWindow = .expired ↔
      record.startBlock ≠ 0 ∧ record.resolvedBlock = 0 ∧
        record.startBlock.toNat + resolveWindow.toNat < reference.toNat := by
  simp only [statusAt, le_resolveEnd_iff]
  split
  · simp_all
  · split
    · simp_all
    · split <;> simp_all

end ChallengeGame.Challenge
