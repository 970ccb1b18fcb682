import ChallengeGame.Challenge

/-!
# One of something for each kind of action
-/

namespace ChallengeGame

structure PerKind (α : Type) where
  challenge : α
  resolve : α
  unlock : α
  withdraw : α
deriving DecidableEq

namespace PerKind

variable {α β : Type}

def get (each : PerKind α) : ActionKind → α
  | .challenge => each.challenge
  | .resolve => each.resolve
  | .unlock => each.unlock
  | .withdraw => each.withdraw

def set (each : PerKind α) (kind : ActionKind) (value : α) : PerKind α :=
  match kind with
  | .challenge => { each with challenge := value }
  | .resolve => { each with resolve := value }
  | .unlock => { each with unlock := value }
  | .withdraw => { each with withdraw := value }

def modify (each : PerKind α) (kind : ActionKind) (change : α → α) : PerKind α :=
  each.set kind (change (each.get kind))

def ofFn (value : ActionKind → α) : PerKind α :=
  ⟨value .challenge, value .resolve, value .unlock, value .withdraw⟩

def map (change : α → β) (each : PerKind α) : PerKind β :=
  ⟨change each.challenge, change each.resolve, change each.unlock, change each.withdraw⟩

@[simp] theorem get_set_self (each : PerKind α) (kind : ActionKind) (value : α) :
    (each.set kind value).get kind = value := by
  cases kind <;> rfl

theorem get_set_of_ne (each : PerKind α) {kind other : ActionKind} (value : α) (h : other ≠ kind) :
    (each.set kind value).get other = each.get other := by
  cases kind <;> cases other <;> first | rfl | exact absurd rfl h

@[simp] theorem get_ofFn (value : ActionKind → α) (kind : ActionKind) :
    (ofFn value).get kind = value kind := by
  cases kind <;> rfl

@[simp] theorem get_map (change : α → β) (each : PerKind α) (kind : ActionKind) :
    (each.map change).get kind = change (each.get kind) := by
  cases kind <;> rfl

end PerKind

end ChallengeGame
