import ChallengeGame.FollowUps
import ChallengeGame.Proofs.BondLedger

/-!
# How commitments are told apart

Reading a commitment and writing it are inverse to each other. So a commitment of a block goes by one
key in both tables and by one posting on the contract, and no two commitments share either. A bond
that is removed is the one of its commitment, whatever was inserted and removed before.
-/

namespace ChallengeGame

namespace Commitment

variable {bytes : Bytes} {commitment : Commitment} {error : CommitmentError}

/-- Why bytes are no commitment. -/
inductive Unreadable : Bytes → CommitmentError → Prop
  | empty : Unreadable [] .empty
  | unknownType {type : UInt8} {payload : Bytes} (above : 1 < type) :
    Unreadable (type :: payload) (.unknownType type)
  | invalidKeccakLength {payload : Bytes} (other : payload.length ≠ 32) :
    Unreadable (0 :: payload) (.invalidKeccakLength payload.length)

theorem decode_eq_ok_iff : decode bytes = .ok commitment ↔ commitment.encode = bytes := by
  constructor
  · intro read
    unfold decode at read
    split at read
    · cases read
    · split at read
      · rename_i keccak
        split at read <;> cases read
        rw [keccak]
        rfl
      · split at read <;> cases read
        rename_i generic
        rw [generic]
        rfl
  · rintro rfl
    exact decode_encode commitment

theorem decode_eq_error_iff : decode bytes = .error error ↔ Unreadable bytes error := by
  constructor
  · intro failed
    unfold decode at failed
    split at failed
    · cases failed; exact .empty
    · split at failed
      · rename_i keccak
        subst keccak
        split at failed <;> cases failed
        exact .invalidKeccakLength ‹_›
      · -- the type byte is neither 0 nor 1
        rename_i first rest notKeccak
        split at failed <;> cases failed
        rename_i notGeneric
        refine .unknownType (UInt8.lt_iff_toNat_lt.2 (Nat.lt_of_le_of_ne ?_ ?_))
        · exact Nat.pos_of_ne_zero fun same => notKeccak (UInt8.toNat.inj same)
        · exact fun same => notGeneric (UInt8.toNat.inj same.symm)
  · rintro (_ | above | other)
    · rfl
    · rename_i type payload
      have notKeccak : type ≠ CommitmentType.keccak256.byte := by rintro rfl; exact absurd above (by decide)
      have notGeneric : type ≠ CommitmentType.generic.byte := by rintro rfl; exact absurd above (by decide)
      rw [decode, if_neg notKeccak, if_neg notGeneric]
    · exact dif_neg other

end Commitment

/-! ## Bonds after any edits -/

namespace BondLedger

inductive Edit where
  | insert (block : BlockNumber) (commitment : Commitment) (unlockableAfter : BlockNumber)
  | remove (block : BlockNumber) (commitment : Commitment)
  | clear

def edit (ledger : BondLedger) : Edit → BondLedger
  | .insert block commitment unlockableAfter => ledger.insert block commitment unlockableAfter
  | .remove block commitment => ledger.remove block (.of block commitment)
  | .clear => empty

/-- The bonds after an edit: each with the block past which it is unlocked. -/
def Edit.leaves (bond? : BlockNumber → Commitment → Option BlockNumber) :
    Edit → BlockNumber → Commitment → Option BlockNumber
  | insert changed added unlockableAfter, block, commitment =>
    if changed = block ∧ added = commitment then some unlockableAfter else bond? block commitment
  | remove changed removed, block, commitment =>
    if changed = block ∧ removed = commitment then none else bond? block commitment
  | clear, _, _ => none

/-- The ledger has these bonds and no others, each under the key of its commitment. -/
def Holds (ledger : BondLedger) (bond? : BlockNumber → Commitment → Option BlockNumber) : Prop :=
  ∀ entry, entry ∈ ledger.entries.entries ↔
    ∃ block commitment unlockableAfter, bond? block commitment = some unlockableAfter ∧
      entry = (Table.Key.of block commitment, ⟨unlockableAfter, .of block commitment⟩)

variable {ledger : BondLedger} {bond? : BlockNumber → Commitment → Option BlockNumber}

theorem mem_remove_of {entry : Table.Key × LockedBond} {block : BlockNumber} {commitment : Commitment} :
    entry ∈ (ledger.remove block (.of block commitment)).entries.entries ↔
      entry ∈ ledger.entries.entries ∧ entry.1 ≠ Table.Key.of block commitment := by
  rw [entries_remove, List.mem_filter, bne_iff_ne]
  rfl

theorem Holds.edit (holds : ledger.Holds bond?) (change : Edit) :
    (ledger.edit change).Holds (change.leaves bond?) := by
  intro entry
  -- an entry goes by the key of its commitment, and a change touches the commitment with that key only
  cases change with
  | insert changed added unlockableAfter =>
    rw [BondLedger.edit, mem_insert, holds]
    constructor
    · rintro (rfl | ⟨⟨block, commitment, after, bond, rfl⟩, apart⟩)
      · exact ⟨changed, added, unlockableAfter, if_pos ⟨rfl, rfl⟩, rfl⟩
      · refine ⟨block, commitment, after, ?_, rfl⟩
        rwa [Edit.leaves, if_neg fun same => apart (Table.Key.of_injective.2 same).symm]
    · rintro ⟨block, commitment, after, bond, rfl⟩
      by_cases same : changed = block ∧ added = commitment
      · rw [Edit.leaves, if_pos same] at bond
        obtain ⟨rfl, rfl⟩ := same
        cases bond
        exact .inl rfl
      · rw [Edit.leaves, if_neg same] at bond
        exact .inr ⟨⟨block, commitment, after, bond, rfl⟩,
          fun keys => same (Table.Key.of_injective.1 keys.symm)⟩
  | remove changed removed =>
    rw [BondLedger.edit, mem_remove_of, holds]
    constructor
    · rintro ⟨⟨block, commitment, after, bond, rfl⟩, apart⟩
      refine ⟨block, commitment, after, ?_, rfl⟩
      rwa [Edit.leaves, if_neg fun same => apart (Table.Key.of_injective.2 same).symm]
    · rintro ⟨block, commitment, after, bond, rfl⟩
      by_cases same : changed = block ∧ removed = commitment
      · rw [Edit.leaves, if_pos same] at bond
        cases bond
      · rw [Edit.leaves, if_neg same] at bond
        exact ⟨⟨block, commitment, after, bond, rfl⟩,
          fun keys => same (Table.Key.of_injective.1 keys.symm)⟩
  | clear =>
    constructor
    · intro mem; cases mem
    · rintro ⟨_, _, _, bond, _⟩; cases bond

theorem Holds.edits (holds : ledger.Holds bond?) (changes : List Edit) :
    (changes.foldl BondLedger.edit ledger).Holds (changes.foldl Edit.leaves bond?) := by
  -- the ledger and its bonds change together
  induction changes generalizing ledger bond? with
  | nil => exact holds
  | cons change changes ih => exact ih (holds.edit change)

theorem holds_empty : empty.Holds fun _ _ => none := by
  intro entry
  constructor
  · intro mem; cases mem
  · rintro ⟨_, _, _, bond, _⟩; cases bond

end BondLedger

/-- One commitment, one byte form, one key and one posting; and one bond, which is removed alone. -/
theorem commitments_identified (block otherBlock : BlockNumber) (commitment other : Commitment)
    (bytes : Bytes) (error : CommitmentError) (followUp otherFollowUp : FollowUp) (ledger : BondLedger)
    (entry : Table.Key × LockedBond) (changes : List BondLedger.Edit) :
    Commitment.decode commitment.encode = .ok commitment ∧
    (Commitment.decode bytes = .ok commitment ↔ commitment.encode = bytes) ∧
    (Commitment.decode bytes = .error error ↔ Commitment.Unreadable bytes error) ∧
    (Table.Key.of block commitment = Table.Key.of otherBlock other ↔
      Posting.of block commitment = Posting.of otherBlock other) ∧
    (Posting.of block commitment = Posting.of otherBlock other ↔
      block = otherBlock ∧ commitment = other) ∧
    (followUp.key = otherFollowUp.key ↔ followUp.block.number = otherFollowUp.block.number ∧
      followUp.commitment = otherFollowUp.commitment) ∧
    (entry ∈ (ledger.remove block (.of block commitment)).entries.entries ↔
      entry ∈ ledger.entries.entries ∧ entry.1 ≠ Table.Key.of block commitment) ∧
    (changes.foldl BondLedger.edit .empty).Holds
      (changes.foldl BondLedger.Edit.leaves fun _ _ => none) := by
  refine ⟨Commitment.decode_encode commitment, Commitment.decode_eq_ok_iff,
    Commitment.decode_eq_error_iff, ?_, Posting.of_injective, Table.Key.of_injective,
    BondLedger.mem_remove_of, BondLedger.holds_empty.edits changes⟩
  rw [Table.Key.of_injective, Posting.of_injective]

end ChallengeGame
