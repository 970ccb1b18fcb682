import ChallengeGame.Proofs.Coordinator.Revisits
import Mathlib.Algebra.Order.Floor.Div
import Mathlib.Data.List.Chain

/-!
# Retries are bounded

However often an input cannot be fetched or a job is not taken, a commitment is looked at
again only after the retry interval and only up to the end of both its windows. Close to the
largest block number the interval shrinks and the windows end early. There it is the heads
that bound the retries, as none of them comes twice.
-/

namespace ChallengeGame.Coordinator

variable {setup : Setup} {key : Table.Key} {books after : Books} {turns : List Turn}
  {parts : List (List Deed)} {earlier list : List Visit} {visit latest : Visit}

/-! ## The heads of a chain -/

/-- The visits are a retry interval apart, as far as there are block numbers, and the last of
them is still in the windows. -/
theorem Chained.spaced (chained : Chained setup earlier latest) :
    min (latest.2.block.number.toNat + earlier.length * setup.retryInterval.toNat)
        (UInt64.size - 1) ≤ latest.1.number.toNat ∧
      latest.1.number ≤ setup.resolveDeadline latest.2.block.number := by
  induction chained with
  | posted =>
    refine ⟨by simp, ?_⟩
    exact UInt64.le_trans (le_challengeDeadline setup _) (challengeDeadline_le setup _)
  | @due earlier visit head _ _ _ chained _ _ check inTime ih =>
    -- one more interval, cut off where the block numbers end
    have interval := BlockNumber.toNat_later visit.1.number setup.retryInterval
    have waited := UInt64.le_iff_toNat_le.1 check
    rw [chained.deadline_eq] at inTime
    refine ⟨?_, UInt64.le_trans inTime (carried_le setup _ _)⟩
    show min (visit.2.block.number.toNat + _) _ ≤ head.number.toNat
    rw [List.length_append, List.length_singleton, Nat.succ_mul]
    omega

theorem Chained.isChain (chained : Chained setup earlier latest) :
    ((earlier ++ [latest]).map fun visit => visit.1.number).IsChain fun head next =>
      head.later setup.retryInterval ≤ next := by
  induction chained with
  | posted => exact List.isChain_singleton _
  | due _ _ _ check _ ih =>
    rw [List.map_append, List.isChain_append]
    exact ⟨ih, List.isChain_singleton _, by simpa using check⟩

theorem Chained.eq_nil (chained : Chained setup earlier latest) (off : setup.retryInterval = 0) :
    earlier = [] := by
  cases chained with
  | posted => rfl
  | due _ enabled _ _ _ => simp [off] at enabled

theorem Chained.init (chained : Chained setup (list ++ [visit]) latest) :
    Chained setup list visit := by
  generalize whole : list ++ [visit] = earlier at chained
  cases chained with
  | posted => simp at whole
  | due before _ _ _ _ =>
    obtain ⟨rfl, same⟩ := List.append_inj' whole rfl
    cases same
    exact before

/-- The visit before the last is below the end of the windows, even where the block numbers
end, so the interval fits into the windows once for each visit before it. -/
theorem Chained.length_mul_lt (chained : Chained setup (list ++ [visit]) latest)
    (same : visit.2.block.number = latest.2.block.number)
    (below : visit.1.number < latest.1.number) :
    list.length * setup.retryInterval.toNat <
      setup.challengeWindow.toNat + setup.resolveWindow.toNat := by
  obtain ⟨spaced, _⟩ := chained.init.spaced
  obtain ⟨_, inTime⟩ := chained.spaced
  rw [UInt64.le_iff_toNat_le, Setup.resolveDeadline, BlockNumber.toNat_later,
    Setup.challengeDeadline, BlockNumber.toNat_later] at inTime
  have below := UInt64.lt_iff_toNat_lt.1 below
  rw [same] at spaced
  omega

theorem Chained.length_le (chained : Chained setup earlier latest)
    (keys : ∀ visit ∈ earlier ++ [latest], visit.2.key = key)
    (increasing : ((earlier ++ [latest]).map fun visit => visit.1.number).IsChain (· < ·))
    (enabled : 0 < setup.retryInterval) :
    earlier.length ≤ (setup.challengeWindow.toNat + setup.resolveWindow.toNat) ⌈/⌉
      setup.retryInterval.toNat := by
  rcases earlier.eq_nil_or_concat' with rfl | ⟨list, visit, rfl⟩
  · simp
  have same : visit.2.block.number = latest.2.block.number := by
    have equal : visit.2.key = latest.2.key := by
      rw [keys visit (by simp), keys latest (by simp)]
    exact (Table.Key.of_injective.1 equal).1
  have below : visit.1.number < latest.1.number := by
    rw [List.map_append, List.isChain_append] at increasing
    simpa using increasing.2.2
  have fits := chained.length_mul_lt same below
  have positive : 0 < setup.retryInterval.toNat := UInt64.lt_iff_toNat_lt.1 enabled
  rw [List.length_append, List.length_singleton, Nat.add_one_le_iff, ← Nat.not_le,
    ceilDiv_le_iff_le_mul positive, Nat.mul_comm]
  omega

/-! ## Runs -/

theorem heads_sublist (once : ∀ turn ∈ turns, turn.trace.countP (asks key) ≤ 1) :
    ((inquiries key turns).map fun dated => dated.1.number).Sublist
      (turns.map fun turn => turn.head.number) := by
  induction turns with
  | nil => exact List.Sublist.slnil
  | cons turn rest ih =>
    have own := once turn List.mem_cons_self
    rw [List.countP_eq_length_filter] at own
    have split : inquiries key (turn :: rest) =
        ((turn.trace.filter (asks key)).map (turn.head, ·)) ++ inquiries key rest := by
      simp [inquiries, Turn.timeline, List.filter_map, Function.comp_def]
    rw [split, List.map_append, List.map_map, List.map_cons, ← List.singleton_append]
    refine List.Sublist.append ?_ (ih fun other mem => once other (List.mem_cons_of_mem _ mem))
    -- a turn gives its own head if it asks, and nothing otherwise
    generalize turn.trace.filter (asks key) = asked at own
    cases asked with
    | nil => simp
    | cons exchange more =>
      obtain rfl : more = [] := by simpa using own
      simp

theorem heads_inquiries (told : List.Forall₂ (Tells setup) turns parts) (key : Table.Key) :
    ((inquiries key turns).map fun dated => dated.1.number) =
      (visits key parts.flatten).map fun visit => visit.1.number := by
  rw [inquiries_eq told, List.map_map]
  rfl

section
variable (started : Coordinator.start setup = .ok books) (once : MeetsOnce setup turns)
  (told : Told setup books turns after parts)
include started once told

theorem heads_increasing (chained : Chained setup earlier latest)
    (visited : visits key parts.flatten = earlier ++ [latest]) :
    ((earlier ++ [latest]).map fun visit => visit.1.number).IsChain fun head next =>
      head < next ∧ head.later setup.retryInterval ≤ next := by
  -- at the end of the block numbers the interval alone would allow the same head again
  have distinct := once.heads.sublist
    (heads_sublist fun _ mem => turn_looks_le_one started once told mem key)
  rw [heads_inquiries told.tells, visited] at distinct
  rw [List.isChain_iff_forall_rel_of_append_cons_cons]
  intro head next before beyond split
  have waited := List.isChain_iff_forall_rel_of_append_cons_cons.1 chained.isChain split
  refine ⟨UInt64.lt_of_le_of_ne (UInt64.le_trans (BlockNumber.le_later _ _) waited) ?_, waited⟩
  rintro rfl
  rw [split, List.nodup_append] at distinct
  simp at distinct

end

/-- In every run of a fresh coordinator that meets nothing twice, the input of a commitment is
asked for a bounded number of times, whatever is answered, and each time at a later head that is
a retry interval away or the last there can be. -/
theorem retries_bounded (started : Coordinator.start setup = .ok books)
    (run : Run setup books turns after) (once : MeetsOnce setup turns) (block : BlockNumber)
    (commitment : Commitment) :
    let heads :=
      (inquiries (Table.Key.of block commitment) turns).map fun dated => dated.1.number
    (0 < setup.retryInterval →
        heads.length ≤ 1 + (setup.challengeWindow.toNat + setup.resolveWindow.toNat) ⌈/⌉
          setup.retryInterval.toNat) ∧
      (setup.retryInterval = 0 → heads.length ≤ 1) ∧
      heads.IsChain fun head next =>
        head < next ∧ min (head.toNat + setup.retryInterval.toNat) (2 ^ 64 - 1) ≤ next.toNat := by
  obtain ⟨parts, told⟩ := run.told
  have traced := told.reaches.traced started once told (List.append_nil _).symm
  simp only [heads_inquiries told.tells, List.length_map]
  have keys := fun visit => @key_of_mem_visits (Table.Key.of block commitment) parts.flatten visit
  rcases (visits (Table.Key.of block commitment) parts.flatten).eq_nil_or_concat' with
    unvisited | ⟨earlier, latest, visited⟩
  · simp [unvisited]
  have chained := traced.chained _ earlier latest visited
  have increasing := heads_increasing started once told chained visited
  rw [visited] at keys ⊢
  rw [List.length_append, List.length_singleton, Nat.add_comm]
  refine ⟨fun enabled => ?_, fun off => by simp [chained.eq_nil off],
    increasing.imp fun head next apart => ?_⟩
  · have bounded := chained.length_le keys (increasing.imp fun _ _ apart => apart.1) enabled
    omega
  · have waited := UInt64.le_iff_toNat_le.1 apart.2
    rw [BlockNumber.toNat_later] at waited
    exact ⟨apart.1, waited⟩

/-- The input of a commitment of block 100 cannot be fetched at any head of its windows. -/
def Sample.failingTasks : List (BlockRef × Responder) :=
  [100, 104, 108, 112, 116, 120, 124].map fun number =>
    (Sample.block number,
      Sample.respond (if number = 100 then [Sample.commitment 7] else [])
        (.error (.other ⟨"timeout", []⟩)) .queued)

theorem retries_bounded_failing :
    let heads := (inquiries (Table.Key.of 100 (Sample.commitment 7))
      (performAll Sample.challenger (Books.new 4) Sample.failingTasks).1).map
        fun dated => dated.1.number
    heads = [100, 104, 108, 112, 116, 120] ∧ heads.length ≤ 1 + (10 + 10) ⌈/⌉ 4 ∧
      heads.IsChain fun head next =>
        head < next ∧ min (head.toNat + 4) (2 ^ 64 - 1) ≤ next.toNat := by
  have once : MeetsOnce Sample.challenger
      (performAll Sample.challenger (Books.new 4) Sample.failingTasks).1 :=
    meetsOnce_performAll _ (by decide) (by decide)
  obtain ⟨bounded, _, apart⟩ := retries_bounded rfl
    (run_performAll Sample.challenger (Books.new 4) Sample.failingTasks) once 100
    (Sample.commitment 7)
  exact ⟨rfl, bounded (by decide), apart⟩

end ChallengeGame.Coordinator
