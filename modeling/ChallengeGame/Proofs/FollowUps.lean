import ChallengeGame.FollowUps
import ChallengeGame.Proofs.Table

/-!
# What follow-ups are kept

Tracking a commitment changes only the follow-up of that commitment. What is due at a head
is exactly what is still alive and waits no longer, oldest block first, and it is no longer
kept then: a follow-up is either handed out, kept or dropped.
-/

namespace ChallengeGame

namespace FollowUps

variable {followUps : FollowUps} {followUp : FollowUp} {head : BlockNumber}

def count (key : Table.Key) (followUps : FollowUps) : Nat :=
  followUps.entries.entries.countP fun entry => entry.1 == key

theorem mem_values : followUp ∈ followUps.entries.values ↔
    (followUp.key, followUp) ∈ followUps.entries.entries := by
  constructor
  · intro mem
    obtain ⟨entry, found, rfl⟩ := List.mem_map.1 mem
    rwa [← followUps.keyed entry found]
  · intro mem; exact List.mem_map.2 ⟨_, mem, rfl⟩

theorem mem_entries {entry : Table.Key × FollowUp} :
    entry ∈ followUps.entries.entries ↔
      entry.1 = entry.2.key ∧ entry.2 ∈ followUps.entries.values := by
  constructor
  · intro mem; exact ⟨followUps.keyed entry mem, List.mem_map.2 ⟨entry, mem, rfl⟩⟩
  · rintro ⟨keyed, mem⟩
    rw [mem_values, ← keyed] at mem
    exact mem

theorem count_pos_iff {key : Table.Key} :
    0 < followUps.count key ↔ ∃ followUp ∈ followUps.entries.values, followUp.key = key := by
  unfold count
  rw [List.countP_pos_iff]
  constructor
  · rintro ⟨entry, mem, same⟩
    have keyed : entry.1 = entry.2.key := followUps.keyed entry mem
    exact ⟨entry.2, List.mem_map.2 ⟨entry, mem, rfl⟩, keyed ▸ by simpa using same⟩
  · rintro ⟨followUp, mem, rfl⟩
    exact ⟨_, mem_values.1 mem, by simp⟩

/-- A commitment has one follow-up at most. -/
theorem eq_of_mem_values {other : FollowUp} (mem : followUp ∈ followUps.entries.values)
    (memOther : other ∈ followUps.entries.values) (same : followUp.key = other.key) :
    followUp = other :=
  congrArg Prod.snd
    (followUps.entries.sorted.eq_of_key (mem_values.1 mem) (mem_values.1 memOther) same)

@[simp] theorem count_new (key : Table.Key) (interval : UInt64) :
    (new interval).count key = 0 := rfl

@[simp] theorem count_clear (key : Table.Key) (followUps : FollowUps) :
    followUps.clear.count key = 0 := rfl

/-! ## Tracking -/

section
variable {block : BlockRef} {commitment : Commitment} {deadline : BlockNumber}

theorem track_eq_self
    (off : followUps.interval = 0 ∨ deadline < followUps.nextCheck head) :
    followUps.track head block commitment deadline = followUps := by
  unfold track isEnabled
  rw [if_neg]
  rcases off with off | late
  · simp [off]
  · simp [UInt64.not_le.2 late]

theorem count_track_le (key : Table.Key) :
    (followUps.track head block commitment deadline).count key ≤
      followUps.count key + if Table.Key.of block.number commitment = key then 1 else 0 := by
  unfold track
  split
  · simpa [count, FollowUp.key, Table.insert] using
      Table.countP_put_le (fun entry : Table.Key × FollowUp => entry.1 == key) _ _ _
  · omega

@[simp] theorem interval_track :
    (followUps.track head block commitment deadline).interval = followUps.interval := by
  unfold track; split <;> rfl

theorem mem_track (on : 0 < followUps.interval) (early : followUps.nextCheck head ≤ deadline) :
    ⟨block, commitment, deadline, followUps.nextCheck head⟩ ∈
      (followUps.track head block commitment deadline).entries.values := by
  rw [mem_values]
  unfold track isEnabled
  rw [if_pos (by simp [on, early])]
  exact Table.mem_put_self _ _ _

/-- Tracking keeps nothing but what was tracked before and what is tracked now. -/
theorem eq_or_mem_of_mem_track
    (mem : followUp ∈ (followUps.track head block commitment deadline).entries.values) :
    followUp = ⟨block, commitment, deadline, followUps.nextCheck head⟩ ∨
      followUp ∈ followUps.entries.values := by
  rw [mem_values] at mem
  unfold track at mem
  split at mem
  · rcases Table.mem_put mem with same | mem
    · exact .inl (congrArg Prod.snd same)
    · exact .inr (mem_values.2 mem)
  · exact .inr (mem_values.2 mem)

theorem mem_track_of_ne (mem : followUp ∈ followUps.entries.values)
    (other : followUp.key ≠ Table.Key.of block.number commitment) :
    followUp ∈ (followUps.track head block commitment deadline).entries.values := by
  unfold track
  split
  · exact mem_values.2 (Table.mem_put_of_ne (mem_values.1 mem) other)
  · exact mem

end

/-! ## What is due -/

theorem mem_due : followUp ∈ (followUps.due head).1 ↔
    followUp ∈ followUps.entries.values ∧ followUp.nextCheck ≤ head ∧ head ≤ followUp.deadline := by
  simp [due, Table.values, Table.filter]

theorem mem_rest : followUp ∈ (followUps.due head).2.entries.values ↔
    followUp ∈ followUps.entries.values ∧ head < followUp.nextCheck ∧ head ≤ followUp.deadline := by
  simp [due, Table.values, Table.filter]

theorem entries_rest : (followUps.due head).2.entries.entries =
    followUps.entries.entries.filter fun entry =>
      head < entry.2.nextCheck ∧ head ≤ entry.2.deadline := by
  simp only [due, Table.filter, List.filter_filter]
  refine List.filter_congr fun entry _ => ?_
  simp [← UInt64.not_le]

theorem due_sorted : (followUps.due head).1.Pairwise fun a b => a.key.lt b.key = true := by
  unfold due Table.values
  rw [List.pairwise_map]
  refine List.Pairwise.imp_of_mem ?_ (Table.sorted _)
  intro a b memA memB below
  have keyed {entry} (mem : entry ∈ ((followUps.entries.filter fun _ entry =>
      head ≤ entry.deadline).filter fun _ entry => entry.nextCheck ≤ head).entries) :
      entry.1 = entry.2.key :=
    followUps.keyed entry (List.mem_filter.1 (List.mem_filter.1 mem).1).1
  rwa [← keyed memA, ← keyed memB]

theorem count_due_le (key : Table.Key) :
    ((followUps.due head).1.countP fun followUp => followUp.key == key) +
      (followUps.due head).2.count key ≤ followUps.count key := by
  have handed : ((followUps.due head).1.countP fun followUp => followUp.key == key) =
      ((followUps.entries.entries.filter fun entry => head ≤ entry.2.deadline).filter
        fun entry => entry.2.nextCheck ≤ head).countP fun entry => entry.1 == key := by
    simp only [due, Table.values, Table.filter, List.countP_map]
    refine List.countP_congr fun entry mem => ?_
    have keyed := followUps.keyed entry (List.mem_filter.1 (List.mem_filter.1 mem).1).1
    simp [keyed]
  rw [handed]
  simp only [count, due, Table.filter]
  rw [← List.countP_eq_countP_filter_add]
  exact List.Sublist.countP_le List.filter_sublist

end FollowUps

end ChallengeGame
