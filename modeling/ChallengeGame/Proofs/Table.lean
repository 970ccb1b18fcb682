import ChallengeGame.Table

/-!
# What a table holds

Putting an entry into a table adds it, takes away at most the entry that stood under its key,
and leaves all others as they are.
-/

namespace ChallengeGame

namespace Table

variable {α : Type} {key : Key} {value : α} {entries : List (Key × α)}

theorem mem_put_self (key : Key) (value : α) (entries : List (Key × α)) :
    (key, value) ∈ put key value entries := by
  induction entries with
  | nil => simp [put]
  | cons first rest ih =>
    unfold put
    split
    · exact List.mem_cons_self
    · split
      · exact List.mem_cons_of_mem _ ih
      · exact List.mem_cons_self

theorem mem_put_of_ne {entry : Key × α} (mem : entry ∈ entries) (other : entry.1 ≠ key) :
    entry ∈ put key value entries := by
  induction entries with
  | nil => cases mem
  | cons first rest ih =>
    unfold put
    split
    · exact List.mem_cons_of_mem _ mem
    · rename_i notBelow
      split
      · rcases List.mem_cons.1 mem with rfl | mem
        · exact List.mem_cons_self
        · exact List.mem_cons_of_mem _ (ih mem)
      · -- neither key is the smaller one, so the first entry is the one that is replaced
        rename_i notAbove
        have same : key = first.1 :=
          Key.eq_of_not_lt (by simpa using notBelow) (by simpa using notAbove)
        rcases List.mem_cons.1 mem with rfl | mem
        · exact absurd same.symm other
        · exact List.mem_cons_of_mem _ mem

theorem Sorted.eq_of_key (sorted : Sorted entries) {a b : Key × α} (memA : a ∈ entries)
    (memB : b ∈ entries) (same : a.1 = b.1) : a = b := by
  induction entries with
  | nil => cases memA
  | cons first rest ih =>
    obtain ⟨below, tail⟩ := List.pairwise_cons.1 sorted
    have apart {entry : Key × α} (mem : entry ∈ rest) : first.1 ≠ entry.1 := fun equal => by
      have less := below entry mem
      rw [equal, Key.lt_irrefl] at less
      cases less
    rcases List.mem_cons.1 memA with rfl | laterA <;> rcases List.mem_cons.1 memB with rfl | laterB
    · rfl
    · exact absurd same (apart laterB)
    · exact absurd same.symm (apart laterA)
    · exact ih tail laterA laterB

theorem countP_put_le (counts : Key × α → Bool) (key : Key) (value : α)
    (entries : List (Key × α)) :
    (put key value entries).countP counts ≤
      entries.countP counts + if counts (key, value) then 1 else 0 := by
  induction entries with
  | nil => simp [put, List.countP_cons]
  | cons first rest ih =>
    unfold put
    split
    · simp [List.countP_cons]
    · split
      · simp only [List.countP_cons] at ih ⊢; omega
      · simp only [List.countP_cons]; omega

theorem Sorted.mem_put_iff (sorted : Sorted entries) {entry : Key × α} :
    entry ∈ put key value entries ↔ entry = (key, value) ∨ entry ∈ entries ∧ entry.1 ≠ key := by
  constructor
  · intro mem
    by_cases same : entry.1 = key
    · exact .inl ((sorted_put key value sorted).eq_of_key mem (mem_put_self key value entries) same)
    · rcases mem_put mem with rfl | mem
      · exact absurd rfl same
      · exact .inr ⟨mem, same⟩
  · rintro (rfl | ⟨mem, other⟩)
    · exact mem_put_self key value entries
    · exact mem_put_of_ne mem other

end Table

end ChallengeGame
