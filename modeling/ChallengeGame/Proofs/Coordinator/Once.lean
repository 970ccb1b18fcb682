import ChallengeGame.Proofs.Coordinator.Turns

/-!
# Runs that meet everything once

If every head is a block of its own and no block yields a commitment twice, a commitment is
met at most once in the whole run. Its balance then says that it is in one place at a time,
and a commitment that is in no place any more is gone for good.
-/

namespace ChallengeGame.Coordinator

variable {setup : Setup} {key : Table.Key} {books after : Books} {turn : Turn} {turns : List Turn}
  {parts : List (List Deed)} {history rest : List Deed} {start moment last : Moment} {deed : Deed}

/-- Every head is a block of its own, and no block yields a commitment twice. -/
structure MeetsOnce (setup : Setup) (turns : List Turn) : Prop where
  heads : (turns.map fun turn => turn.head.number).Nodup
  commitments : ∀ turn ∈ turns, ∀ commitments, turn.Reads setup commitments → commitments.Nodup

theorem MeetsOnce.tail (once : MeetsOnce setup (turn :: turns)) : MeetsOnce setup turns :=
  ⟨(List.nodup_cons.1 once.heads).2, fun other mem =>
    once.commitments other (List.mem_cons_of_mem _ mem)⟩

theorem meetsOnce_performAll {tasks : List (BlockRef × Responder)} (books : Books)
    (heads : (tasks.map fun task => task.1.number).Nodup)
    (commitments : ∀ task ∈ tasks, (Batch.commitments
      ((Batch.entries setup.rollup setup.hasBlobs task.1).record fun query =>
        task.2 (.batch query)).2).Nodup) :
    MeetsOnce setup (performAll setup books tasks).1 := by
  constructor
  · have same := congrArg (List.map BlockRef.number) (heads_performAll setup books tasks)
    rw [List.map_map, List.map_map] at same
    exact same ▸ heads
  · clear heads
    induction tasks generalizing books with
    | nil => simp [performAll]
    | cons task rest ih =>
      intro turn mem found reads
      rcases List.mem_cons.1 mem with rfl | mem
      · rw [reads.eq (fun query => task.2 (.batch query)) fun _ _ mem => perform_answers _ mem]
        exact commitments task List.mem_cons_self
      · exact ih _ (fun other mem => commitments other (List.mem_cons_of_mem _ mem)) turn mem found
          reads

theorem met_block (told : List.Forall₂ (Tells setup) turns parts)
    (reaches : Reaches setup start parts.flatten last)
    (met : key ∈ parts.flatten.flatMap Deed.met) :
    ∃ turn ∈ turns, turn.head.number = key.block := by
  induction told generalizing start with
  | nil => simp at met
  | @cons turn part _ parts tells _ ih =>
    rw [List.flatten_cons, List.flatMap_append] at met
    obtain ⟨middle, own, later⟩ := Reaches.split reaches
    rcases List.mem_append.1 met with met | met
    · rcases tells.met own with none | ⟨commitments, _, same⟩
      · rw [none] at met; cases met
      · rw [same] at met
        obtain ⟨commitment, _, rfl⟩ := List.mem_map.1 met
        exact ⟨turn, List.mem_cons_self, rfl⟩
    · obtain ⟨other, mem, same⟩ := ih later met
      exact ⟨other, List.mem_cons_of_mem _ mem, same⟩

theorem met_nodup (told : List.Forall₂ (Tells setup) turns parts) (once : MeetsOnce setup turns)
    (reaches : Reaches setup start parts.flatten last) :
    (parts.flatten.flatMap Deed.met).Nodup := by
  induction told generalizing start with
  | nil => simp
  | @cons turn part turns parts tells told ih =>
    obtain ⟨middle, own, later⟩ := Reaches.split reaches
    rw [List.flatten_cons, List.flatMap_append]
    rcases tells.met own with none | ⟨commitments, reads, same⟩
    · rw [none, List.nil_append]; exact ih once.tail later
    · rw [same]
      have injective : Function.Injective (Table.Key.of turn.head.number) := fun _ _ equal =>
        (Table.Key.of_injective.1 equal).2
      refine List.Nodup.append ((once.commitments turn (by simp) _ reads).map injective)
        (ih once.tail later) ?_
      -- what both this turn and a later one meet would give them one block number
      intro key here there
      obtain ⟨commitment, _, rfl⟩ := List.mem_map.1 here
      obtain ⟨other, mem, equal⟩ := met_block told later there
      exact (List.nodup_cons.1 once.heads).1 (List.mem_map.2 ⟨other, mem, equal⟩)

def Sample.tasks : List (BlockRef × Responder) :=
  [(Sample.block 100,
      Sample.respond [Sample.commitment 7] (.error (.other ⟨"timeout", []⟩)) .queued),
    (Sample.block 104, Sample.respond [Sample.commitment 8] (.error .pendingChallenge) .queued)]

def Sample.run : List Turn × Books := performAll Sample.challenger (Books.new 4) Sample.tasks

theorem Sample.meetsOnce : MeetsOnce Sample.challenger Sample.run.1 := by
  refine meetsOnce_performAll _ (by decide) fun task mem => ?_
  simp only [Sample.tasks, List.mem_cons, List.not_mem_nil, or_false] at mem
  rcases mem with rfl | rfl <;> decide

/-! ## Where the commitment is -/

section
variable (started : Coordinator.start setup = .ok books) (once : MeetsOnce setup turns)
  (told : Told setup books turns after parts)

include once told in
theorem met_count_le (whole : parts.flatten = history ++ rest) (key : Table.Key) :
    (history.flatMap Deed.met).count key ≤ 1 := by
  have nodup := met_nodup told.tells once told.reaches
  rw [whole, List.flatMap_append] at nodup
  exact List.nodup_iff_count_le_one.1 (List.nodup_append.1 nodup).1 key

include started once told

/-- A commitment is awaited, tracked or has ended, at most one of them and at most once. -/
theorem balance_le (whole : parts.flatten = history ++ rest)
    (reached : Reaches setup ⟨.resting, books⟩ history moment) (key : Table.Key) :
    moment.stage.awaited key + moment.books.followUps.count key +
      history.countP (Deed.concludes setup key) ≤ 1 := by
  have balance := reached.balance key
  have met := met_count_le once told whole key
  have fresh := @count_start setup key books started
  rw [fresh, awaited_resting] at balance
  omega

omit once in
theorem met_of_looked (whole : parts.flatten = history ++ rest)
    (looked : 0 < history.countP (Deed.looksAt key)) :
    0 < (history.flatMap Deed.met).count key := by
  obtain ⟨deed, mem, looks⟩ := List.countP_pos_iff.1 looked
  obtain ⟨earlier, later, rfl⟩ := List.append_of_mem mem
  have reaches := told.reaches
  rw [whole, List.append_assoc] at reaches
  obtain ⟨before, reached, onward⟩ := reaches.split
  obtain ⟨_, step, _⟩ := onward.uncons
  -- at first nothing is tracked, so what is awaited was met before
  have awaited := step.awaited_pos looks
  have balance := reached.balance key
  have fresh := @count_start setup key books started
  rw [fresh, awaited_resting] at balance
  rw [List.flatMap_append, List.count_append]
  omega

/-- A commitment that was looked at and is in no place any more never comes back. -/
theorem gone_for_good {more : List Deed} (whole : parts.flatten = history ++ (more ++ rest))
    (looked : 0 < history.countP (Deed.looksAt key))
    (gone : moment.stage.awaited key + moment.books.followUps.count key = 0)
    (onward : Reaches setup moment more last) :
    last.books.followUps.count key = 0 ∧ more.countP (Deed.looksAt key) = 0 := by
  -- the one time that the commitment is met is over
  have met := met_of_looked started told whole looked
  have total := met_count_le once told (whole.trans (List.append_assoc ..).symm) key
  rw [List.flatMap_append, List.count_append] at total
  have unmet : (more.flatMap Deed.met).count key = 0 := by omega
  constructor
  · have balance := onward.balance key
    omega
  · rw [List.countP_eq_zero]
    intro deed mem looks
    obtain ⟨earlier, later, rfl⟩ := List.append_of_mem mem
    obtain ⟨before, first, second⟩ := onward.split
    obtain ⟨_, step, _⟩ := second.uncons
    have awaited := step.awaited_pos looks
    have balance := first.balance key
    rw [List.flatMap_append, List.count_append] at unmet
    omega

theorem looks_le_one {opening : Deed} {own : List Deed}
    (whole : parts.flatten = history ++ opening :: (own ++ rest))
    (going : ∀ deed ∈ own, deed.starts = false) (key : Table.Key) :
    own.countP (Deed.looksAt key) ≤ 1 := by
  have split : parts.flatten = (history ++ [opening]) ++ (own ++ rest) := by rw [whole]; simp
  have reaches := told.reaches
  rw [split] at reaches
  obtain ⟨moment, reached, onward⟩ := reaches.split
  obtain ⟨_, onward, _⟩ := onward.split
  have met := met_count_le once told (split.trans (List.append_assoc ..).symm) key
  have balance := reached.balance key
  -- what the turn looks at was awaited at its start or is met in it
  have bound := onward.awaited_le going key
  have fresh := @count_start setup key books started
  rw [fresh, awaited_resting] at balance
  rw [List.flatMap_append, List.count_append] at met
  omega

theorem turn_looks_le_one {turn : Turn} (mem : turn ∈ turns) (key : Table.Key) :
    turn.trace.countP (asks key) ≤ 1 := by
  obtain ⟨earlier, part, later, rfl, tells⟩ := told_split told.tells mem
  obtain ⟨opening, rest, rfl, _, starts, going⟩ := tells.opens
  have whole : (earlier ++ (opening :: rest) :: later).flatten =
      earlier.flatten ++ opening :: (rest ++ later.flatten) := by simp
  have bound := looks_le_one started once told whole (fun deed mem => (going deed mem).2) key
  rwa [← tells.exchanges, countP_flatMap_asks, List.countP_cons, Deed.looksAt_of_starts starts,
    if_neg Bool.false_ne_true]

end

end ChallengeGame.Coordinator
