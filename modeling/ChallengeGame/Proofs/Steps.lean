import ChallengeGame.Proofs.Trace
import Mathlib.Data.List.Induction

/-!
# Sequences of steps

Laws for whatever moves in steps that may be disabled and that show something: a sequence of
actions is taken apart at any place, and what every step keeps holds after any sequence.
-/

namespace ChallengeGame.Steps

variable {State Action Event : Type} {step? : State → Action → Option (State × List Event)}
  {first last : State} {action : Action} {actions later : List Action} {shown : List Event}

/-- The state after some actions, and everything that was shown. -/
def run? (step? : State → Action → Option (State × List Event)) :
    State → List Action → Option (State × List Event)
  | state, [] => some (state, [])
  | state, action :: rest => do
    let (state, shown) ← step? state action
    let (state, later) ← run? step? state rest
    some (state, shown ++ later)

theorem run?_cons :
    run? step? first (action :: later) = some (last, shown) ↔
      ∃ middle own rest, step? first action = some (middle, own) ∧
        run? step? middle later = some (last, rest) ∧ shown = own ++ rest := by
  simp only [run?, Option.bind_eq_bind, Option.bind_eq_some_iff, Option.some.injEq, Prod.mk.injEq]
  constructor
  · rintro ⟨⟨middle, own⟩, stepped, ⟨_, rest⟩, onward, rfl, rfl⟩
    exact ⟨middle, own, rest, stepped, onward, rfl⟩
  · rintro ⟨middle, own, rest, stepped, onward, rfl⟩
    exact ⟨(middle, own), stepped, (last, rest), onward, rfl, rfl⟩

theorem run?_append :
    run? step? first (actions ++ later) = some (last, shown) ↔
      ∃ middle before after, run? step? first actions = some (middle, before) ∧
        run? step? middle later = some (last, after) ∧ shown = before ++ after := by
  induction actions generalizing first shown with
  | nil => simp [run?]
  | cons action rest ih =>
    rw [List.cons_append, run?_cons]
    constructor
    · rintro ⟨next, own, _, stepped, onward, rfl⟩
      obtain ⟨middle, before, after, run, tail, rfl⟩ := ih.1 onward
      refine ⟨middle, own ++ before, after, ?_, tail, (List.append_assoc ..).symm⟩
      exact run?_cons.2 ⟨next, own, before, stepped, run, rfl⟩
    · rintro ⟨middle, before, after, run, tail, rfl⟩
      obtain ⟨next, own, rest, stepped, onward, rfl⟩ := run?_cons.1 run
      exact ⟨next, own, rest ++ after, stepped, ih.2 ⟨middle, rest, after, onward, tail, rfl⟩,
        List.append_assoc ..⟩

theorem run?_singleton :
    run? step? first [action] = some (last, shown) ↔ step? first action = some (last, shown) := by
  rw [run?_cons]
  constructor
  · rintro ⟨_, own, _, stepped, done, rfl⟩
    cases done
    rwa [List.append_nil]
  · intro stepped
    exact ⟨last, shown, [], stepped, rfl, (List.append_nil _).symm⟩

/-- What holds at first and is kept by every step holds after every sequence of actions. -/
theorem run_induction (holds : List Action → State → List Event → Prop) (start : holds [] first [])
    (steps : ∀ actions middle past action last shown,
      run? step? first actions = some (middle, past) → holds actions middle past →
      step? middle action = some (last, shown) → holds (actions ++ [action]) last (past ++ shown))
    (run : run? step? first actions = some (last, shown)) : holds actions last shown := by
  -- the last action is taken off, so that `holds` can speak of all that came before it
  induction actions using List.reverseRecOn generalizing last shown with
  | nil =>
    cases run
    exact start
  | append_singleton actions action ih =>
    obtain ⟨middle, past, own, before, after, rfl⟩ := run?_append.1 run
    exact steps actions middle past action last own before (ih before) (run?_singleton.1 after)

/-- Whatever is shown is shown by one of the actions, after all that came before it. -/
theorem run?_at {before after : List Event} {event : Event}
    (run : run? step? first actions = some (last, before ++ event :: after)) :
    ∃ earlier action later middle next past own rest, actions = earlier ++ action :: later ∧
      run? step? first earlier = some (middle, past) ∧
      step? middle action = some (next, own ++ event :: rest) ∧ before = past ++ own := by
  induction actions generalizing first before with
  | nil =>
    obtain ⟨_, none⟩ := Prod.mk.inj (Option.some.inj run)
    exact absurd none.symm (by simp)
  | cons action rest ih =>
    obtain ⟨next, own, later, stepped, onward, split⟩ := run?_cons.1 run
    rcases append_at.1 split.symm with ⟨others, rfl, _⟩ | ⟨beyond, rfl, tail⟩
    · exact ⟨[], action, rest, first, next, [], before, others, rfl, rfl, stepped, rfl⟩
    · rw [tail] at onward
      obtain ⟨earlier, found, later, middle, final, past, inner, others, rfl, led, showed, rfl⟩ :=
        ih onward
      refine ⟨action :: earlier, found, later, middle, final, own ++ past, inner, others, rfl, ?_,
        showed, by simp⟩
      exact run?_cons.2 ⟨next, own, past, stepped, led, rfl⟩

theorem exists_of_mem_shown (run : run? step? first actions = some (last, shown)) {event : Event}
    (mem : event ∈ shown) :
    ∃ middle action next own, action ∈ actions ∧ step? middle action = some (next, own) ∧
      event ∈ own := by
  obtain ⟨before, after, rfl⟩ := List.mem_iff_append.1 mem
  obtain ⟨_, action, _, middle, next, _, own, rest, rfl, _, stepped, _⟩ := run?_at run
  exact ⟨middle, action, next, own ++ event :: rest, by simp, stepped, by simp⟩

end ChallengeGame.Steps
