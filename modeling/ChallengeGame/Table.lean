import ChallengeGame.Block
import ChallengeGame.Commitment

/-!
# Tables of commitments

A table holds at most one entry for each commitment of each block, oldest block first
and commitments of one block in the order of their bytes. The order is part of the
type, so walking a table needs no sorting.
-/

namespace ChallengeGame

namespace Bytes

theorem lt_irrefl (a : Bytes) : lt a a = false := by
  induction a with
  | nil => rfl
  | cons x xs ih => simp [lt, ih]

theorem lt_trans {a b c : Bytes} (hab : lt a b = true) (hbc : lt b c = true) : lt a c = true := by
  induction a generalizing b c with
  | nil =>
    cases c with
    | nil => simp [lt] at hbc
    | cons z zs => rfl
  | cons x xs ih =>
    cases b with
    | nil => simp [lt] at hab
    | cons y ys =>
      cases c with
      | nil => simp [lt] at hbc
      | cons z zs =>
        simp only [lt, Bool.or_eq_true, decide_eq_true_eq, Bool.and_eq_true, beq_iff_eq] at *
        rcases hab with hab | ⟨rfl, hab⟩
        · rcases hbc with hbc | ⟨rfl, _⟩
          · exact .inl (UInt8.lt_trans hab hbc)
          · exact .inl hab
        · rcases hbc with hbc | ⟨rfl, hbc⟩
          · exact .inl hbc
          · exact .inr ⟨rfl, ih hab hbc⟩

theorem eq_of_not_lt {a b : Bytes} (hab : lt a b = false) (hba : lt b a = false) : a = b := by
  induction a generalizing b with
  | nil =>
    cases b with
    | nil => rfl
    | cons y ys => simp [lt] at hab
  | cons x xs ih =>
    cases b with
    | nil => simp [lt] at hba
    | cons y ys =>
      simp only [lt, Bool.or_eq_false_iff, decide_eq_false_iff_not, Bool.and_eq_false_iff,
        beq_eq_false_iff_ne] at hab hba
      have same : x = y := UInt8.le_antisymm (UInt8.not_lt.1 hba.1) (UInt8.not_lt.1 hab.1)
      subst same
      rw [ih (by simpa using hab.2) (by simpa using hba.2)]

end Bytes

namespace Table

structure Key where
  block : BlockNumber
  commitment : Bytes
deriving DecidableEq

namespace Key

def of (block : BlockNumber) (commitment : Commitment) : Key :=
  ⟨block, commitment.encode⟩

def lt (a b : Key) : Bool :=
  a.block < b.block || (a.block == b.block && Bytes.lt a.commitment b.commitment)

theorem lt_irrefl (a : Key) : lt a a = false := by
  simp [lt, Bytes.lt_irrefl]

theorem lt_trans {a b c : Key} (hab : lt a b = true) (hbc : lt b c = true) : lt a c = true := by
  simp only [lt, Bool.or_eq_true, decide_eq_true_eq, Bool.and_eq_true, beq_iff_eq] at *
  rcases hab with hab | ⟨eab, hab⟩
  · rcases hbc with hbc | ⟨ebc, _⟩
    · exact .inl (UInt64.lt_trans hab hbc)
    · exact .inl (ebc ▸ hab)
  · rcases hbc with hbc | ⟨ebc, hbc⟩
    · exact .inl (eab ▸ hbc)
    · exact .inr ⟨eab.trans ebc, Bytes.lt_trans hab hbc⟩

theorem eq_of_not_lt {a b : Key} (hab : lt a b = false) (hba : lt b a = false) : a = b := by
  simp only [lt, Bool.or_eq_false_iff, decide_eq_false_iff_not, Bool.and_eq_false_iff,
    beq_eq_false_iff_ne] at hab hba
  have same : a.block = b.block :=
    UInt64.le_antisymm (UInt64.not_lt.1 hba.1) (UInt64.not_lt.1 hab.1)
  obtain ⟨block, commitment⟩ := a
  obtain ⟨block', commitment'⟩ := b
  simp only at same
  subst same
  have bytes : commitment = commitment' :=
    Bytes.eq_of_not_lt (by simpa using hab.2) (by simpa using hba.2)
  rw [bytes]

theorem of_injective {block block' : BlockNumber} {commitment commitment' : Commitment} :
    of block commitment = of block' commitment' ↔ block = block' ∧ commitment = commitment' := by
  constructor
  · intro h
    injection h with blocks bytes
    exact ⟨blocks, Commitment.encode_injective bytes⟩
  · rintro ⟨rfl, rfl⟩
    rfl

end Key

/-- The entries with one more, which takes the place of an entry under its key. -/
def put {α : Type} (key : Key) (value : α) : List (Key × α) → List (Key × α)
  | [] => [(key, value)]
  | entry :: rest =>
    if key.lt entry.1 then (key, value) :: entry :: rest
    else if entry.1.lt key then entry :: put key value rest
    else (key, value) :: rest

theorem mem_put {α : Type} {key : Key} {value : α} {entries : List (Key × α)} {entry : Key × α}
    (h : entry ∈ put key value entries) : entry = (key, value) ∨ entry ∈ entries := by
  induction entries with
  | nil => simpa [put] using h
  | cons first rest ih =>
    unfold put at h
    split at h
    · simpa using h
    · split at h
      · rcases List.mem_cons.1 h with h | h
        · exact .inr (h ▸ List.mem_cons_self)
        · rcases ih h with h | h
          · exact .inl h
          · exact .inr (List.mem_cons_of_mem _ h)
      · rcases List.mem_cons.1 h with h | h
        · exact .inl h
        · exact .inr (List.mem_cons_of_mem _ h)

def Sorted {α : Type} (entries : List (Key × α)) : Prop :=
  entries.Pairwise fun a b => a.1.lt b.1 = true

theorem sorted_put {α : Type} (key : Key) (value : α) {entries : List (Key × α)}
    (h : Sorted entries) : Sorted (put key value entries) := by
  induction entries with
  | nil => simp [put, Sorted]
  | cons first rest ih =>
    obtain ⟨before, tail⟩ := List.pairwise_cons.1 h
    unfold put
    split
    · rename_i below
      refine List.pairwise_cons.2 ⟨?_, h⟩
      intro entry mem
      rcases List.mem_cons.1 mem with rfl | mem
      · exact below
      · exact Key.lt_trans below (before entry mem)
    · rename_i notBelow
      split
      · rename_i above
        refine List.pairwise_cons.2 ⟨?_, ih tail⟩
        intro entry mem
        rcases mem_put mem with rfl | mem
        · exact above
        · exact before entry mem
      · rename_i notAbove
        have same : key = first.1 := Key.eq_of_not_lt (by simpa using notBelow) (by simpa using notAbove)
        exact List.pairwise_cons.2 ⟨fun entry mem => same ▸ before entry mem, tail⟩

end Table

structure Table (α : Type) where
  entries : List (Table.Key × α)
  sorted : Table.Sorted entries

namespace Table

variable {α : Type}

def empty : Table α := ⟨[], .nil⟩

def size (table : Table α) : Nat := table.entries.length

def values (table : Table α) : List α := table.entries.map (·.2)

def get? (table : Table α) (key : Key) : Option α :=
  (table.entries.find? (·.1 == key)).map (·.2)

def insert (table : Table α) (key : Key) (value : α) : Table α :=
  ⟨put key value table.entries, sorted_put key value table.sorted⟩

def filter (table : Table α) (keep : Key → α → Bool) : Table α :=
  ⟨table.entries.filter fun entry => keep entry.1 entry.2, List.Pairwise.filter _ table.sorted⟩

def erase (table : Table α) (key : Key) : Table α :=
  table.filter fun other _ => other != key

end Table

end ChallengeGame
