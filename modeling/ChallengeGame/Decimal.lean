/-!
# Decimal notation

Numbers are written with their decimal digits and no leading zero. Reading takes any
digits, at least one.
-/

namespace ChallengeGame.Decimal

def digit (value : Nat) : Char :=
  Char.ofNat (48 + value)

def digitValue? (c : Char) : Option Nat :=
  if '0' ≤ c ∧ c ≤ '9' then some (c.toNat - 48) else none

theorem digitValue?_digit {value : Nat} (h : value < 10) : digitValue? (digit value) = some value := by
  have key : ∀ v : Fin 10, digitValue? (digit v) = some v.val := by decide
  exact key ⟨value, h⟩

/-- The digits of a number, at least one. -/
def digits (value : Nat) : List Char :=
  if value < 10 then [digit value]
  else digits (value / 10) ++ [digit (value % 10)]
termination_by value

/-- The number written by a list of digits, which may be empty. -/
def ofDigits (text : List Char) : Option Nat :=
  text.foldlM (fun value c => (digitValue? c).map (10 * value + ·)) 0

def read (text : List Char) : Option Nat :=
  if text.isEmpty then none else ofDigits text

theorem ofDigits_append_singleton (text : List Char) (c : Char) :
    ofDigits (text ++ [c]) =
      (ofDigits text).bind fun value => (digitValue? c).map (10 * value + ·) := by
  simp [ofDigits, List.foldlM_append]

theorem digits_ne_nil (value : Nat) : digits value ≠ [] := by
  rw [digits]
  split <;> simp

theorem ofDigits_digits (value : Nat) : ofDigits (digits value) = some value := by
  induction value using Nat.strongRecOn with
  | ind value ih =>
    rw [digits]
    split
    · rename_i small
      simp [ofDigits, digitValue?_digit small]
    · rename_i large
      rw [ofDigits_append_singleton, ih (value / 10) (by omega),
        Option.bind_some, digitValue?_digit (by omega)]
      simp only [Option.map_some, Option.some.injEq]
      omega

theorem read_digits (value : Nat) : read (digits value) = some value := by
  simp [read, digits_ne_nil, ofDigits_digits]

end ChallengeGame.Decimal
