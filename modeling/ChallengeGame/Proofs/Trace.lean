import Mathlib.Logic.Basic

/-!
# Places in a trace

Where an element of a trace stands when the trace is put together from parts: the part it
stands in, and what of the others comes before and after it.
-/

namespace ChallengeGame

variable {α β : Type}

theorem append_at {first second before after : List α} {a : α} :
    first ++ second = before ++ a :: after ↔
      (∃ rest, first = before ++ a :: rest ∧ after = rest ++ second) ∨
        ∃ own, before = first ++ own ∧ second = own ++ a :: after := by
  constructor
  · intro split
    rw [List.append_eq_append_iff] at split
    rcases split with ⟨own, rfl, rfl⟩ | ⟨_ | ⟨_, rest⟩, rfl, split⟩
    · exact .inr ⟨own, rfl, rfl⟩
    · -- it stands right where the second list begins
      exact .inr ⟨[], by simp, split.symm⟩
    · obtain ⟨rfl, rfl⟩ := List.cons.inj split
      exact .inl ⟨rest, rfl, rfl⟩
  · rintro (⟨rest, rfl, rfl⟩ | ⟨own, rfl, rfl⟩) <;> simp

theorem flatMap_at {f : α → List β} {list : List α} {before after : List β} {b : β}
    (split : list.flatMap f = before ++ b :: after) :
    ∃ earlier a later own rest, list = earlier ++ a :: later ∧ f a = own ++ b :: rest ∧
      before = earlier.flatMap f ++ own ∧ after = rest ++ later.flatMap f := by
  induction list generalizing before with
  | nil => simp at split
  | cons first list ih =>
    rw [List.flatMap_cons, append_at] at split
    rcases split with ⟨rest, within, rfl⟩ | ⟨beyond, rfl, tail⟩
    · exact ⟨[], first, list, before, rest, rfl, within, rfl, rfl⟩
    · obtain ⟨earlier, found, later, own, rest, rfl, inside, rfl, rfl⟩ := ih tail
      exact ⟨first :: earlier, found, later, own, rest, rfl, inside, by simp, rfl⟩

end ChallengeGame
