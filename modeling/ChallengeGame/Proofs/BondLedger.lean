import ChallengeGame.BondLedger
import ChallengeGame.Proofs.Table

/-!
# What bonds are kept

A bond that was locked stays in the ledger until it is removed, and a bond is locked for each
commitment at most once at a time.
-/

namespace ChallengeGame.BondLedger

variable {ledger : BondLedger} {entry : Table.Key × LockedBond} {key : Table.Key}
  {block : BlockNumber} {commitment : Commitment} {unlockableAfter : BlockNumber}

def count (key : Table.Key) (ledger : BondLedger) : Nat :=
  ledger.entries.entries.countP fun entry => entry.1 == key

@[simp] theorem count_empty (key : Table.Key) : empty.count key = 0 := rfl

theorem mem_insert :
    entry ∈ (ledger.insert block commitment unlockableAfter).entries.entries ↔
      entry = (Table.Key.of block commitment, ⟨unlockableAfter, Posting.of block commitment⟩) ∨
        entry ∈ ledger.entries.entries ∧ entry.1 ≠ Table.Key.of block commitment :=
  ledger.entries.sorted.mem_put_iff

theorem count_insert_le (key : Table.Key) :
    (ledger.insert block commitment unlockableAfter).count key ≤
      ledger.count key + if Table.Key.of block commitment = key then 1 else 0 := by
  simpa [count, insert, Table.insert] using
    Table.countP_put_le (fun entry : Table.Key × LockedBond => entry.1 == key) _ _
      ledger.entries.entries

theorem entries_remove (block : BlockNumber) (posting : Posting) :
    (ledger.remove block posting).entries.entries =
      ledger.entries.entries.filter fun entry => entry.1 != ⟨block, posting.commitment⟩ := rfl

theorem mem_eligible {head : BlockNumber} {bond : BlockNumber × Posting} :
    bond ∈ ledger.eligible head ↔ ∃ entry ∈ ledger.entries.entries,
      entry.2.unlockableAfter < head ∧ (entry.1.block, entry.2.posting) = bond := by
  simp [eligible, Table.filter, and_assoc]

/-! ## Bonds under the bytes of their postings -/

/-- Every bond stands under the bytes of its posting, so that what is eligible can be removed. -/
def Keyed (ledger : BondLedger) : Prop :=
  ∀ entry ∈ ledger.entries.entries, entry.2.posting.commitment = entry.1.commitment

theorem keyed_empty : empty.Keyed := by
  intro entry mem; cases mem

theorem Keyed.insert (keyed : ledger.Keyed) :
    (ledger.insert block commitment unlockableAfter).Keyed := by
  intro entry mem
  rcases mem_insert.1 mem with rfl | ⟨mem, _⟩
  · rfl
  · exact keyed entry mem

theorem Keyed.remove (keyed : ledger.Keyed) (block : BlockNumber) (posting : Posting) :
    (ledger.remove block posting).Keyed := by
  intro entry mem
  rw [entries_remove] at mem
  exact keyed entry (List.mem_filter.1 mem).1

/-- A bond that was locked is eligible past the head it was locked with, and not before. -/
theorem Keyed.mem_eligible_insert (keyed : ledger.Keyed) {head : BlockNumber} :
    (block, Posting.of block commitment) ∈
        (ledger.insert block commitment unlockableAfter).eligible head ↔
      unlockableAfter < head := by
  have own : (Table.Key.of block commitment, LockedBond.mk unlockableAfter
      (Posting.of block commitment)) ∈
      (ledger.insert block commitment unlockableAfter).entries.entries := mem_insert.2 (.inl rfl)
  rw [mem_eligible]
  constructor
  · rintro ⟨entry, mem, late, same⟩
    -- the block and the bytes of the posting are the key, and a key has one entry
    have bytes := keyed.insert entry mem
    obtain ⟨blocks, postings⟩ := Prod.mk.inj same
    rw [postings] at bytes
    have key : entry.1 = Table.Key.of block commitment := by
      cases entry with
      | mk key bond => cases key; simp_all [Table.Key.of, Posting.of]
    rwa [(Table.sorted _).eq_of_key mem own key] at late
  · intro late; exact ⟨_, own, late, rfl⟩

end ChallengeGame.BondLedger
