import ChallengeGame.Proofs.FollowUps
import Mathlib.Data.List.Induction

/-!
# Follow-ups as a timed queue

A call that tracks a commitment early enough puts it into a queue. There it waits until a call
removes it: one that returns it, discards it, puts the same commitment in again or clears the queue.
`timed_queue` says that a table of follow-ups does exactly this. After any calls it holds what waits,
whatever the heads of the calls were, and a call for what is due returns what it removes while the
deadline has not passed.
-/

namespace ChallengeGame.FollowUps

/-- What is asked of a table of follow-ups. -/
inductive Call where
  | track (head : BlockNumber) (block : BlockRef) (commitment : Commitment) (deadline : BlockNumber)
  | due (head : BlockNumber)
  | clear

def perform (followUps : FollowUps) : Call → List FollowUp × FollowUps
  | .track head block commitment deadline => ([], followUps.track head block commitment deadline)
  | .due head => followUps.due head
  | .clear => ([], followUps.clear)

def performAll (followUps : FollowUps) : List Call → List (List FollowUp) × FollowUps
  | [] => ([], followUps)
  | call :: rest =>
    let (returned, next) := followUps.perform call
    let (others, last) := next.performAll rest
    (returned :: others, last)

/-! ## The queue -/

/-- The call puts a follow-up into the queue, which takes only what is due before its deadline. -/
inductive Enqueues (interval : UInt64) : Call → FollowUp → Prop
  | track {head : BlockNumber} {block : BlockRef} {commitment : Commitment} {deadline : BlockNumber}
    (enabled : 0 < interval) (early : head.later interval ≤ deadline) :
    Enqueues interval (.track head block commitment deadline)
      ⟨block, commitment, deadline, head.later interval⟩

/-- The call takes a follow-up out of the queue. -/
inductive Removes (interval : UInt64) (followUp : FollowUp) : Call → Prop
  | returned {head : BlockNumber} (due : followUp.nextCheck ≤ head)
    (alive : head ≤ followUp.deadline) : Removes interval followUp (.due head)
  | discarded {head : BlockNumber} (expired : followUp.deadline < head) :
    Removes interval followUp (.due head)
  | replaced {call : Call} {other : FollowUp} (enqueues : Enqueues interval call other)
    (same : other.key = followUp.key) : Removes interval followUp call
  | cleared : Removes interval followUp .clear

/-- The call at `source` has put the follow-up into the queue, and no later one has removed it. -/
structure Waits (interval : UInt64) (calls : List Call) (source : Nat) (followUp : FollowUp) :
    Prop where
  enqueued : ∃ call, calls[source]? = some call ∧ Enqueues interval call followUp
  kept : ∀ later call, source < later → calls[later]? = some call → ¬ Removes interval followUp call

/-- The call at `place` asks for what is due, and the follow-up that waits since `source` is due
and its deadline has not passed. -/
structure Serves (interval : UInt64) (calls : List Call) (place source : Nat) (followUp : FollowUp) :
    Prop where
  waits : Waits interval (calls.take place) source followUp
  due : ∃ head, calls[place]? = some (.due head) ∧ followUp.nextCheck ≤ head ∧
    head ≤ followUp.deadline

variable {interval : UInt64} {followUps : FollowUps} {followUp other : FollowUp} {call : Call}
  {calls more : List Call} {source place : Nat}

theorem enqueues_track_iff {head : BlockNumber} {block : BlockRef} {commitment : Commitment}
    {deadline : BlockNumber} :
    Enqueues interval (.track head block commitment deadline) followUp ↔
      (0 < interval ∧ head.later interval ≤ deadline) ∧
        followUp = ⟨block, commitment, deadline, head.later interval⟩ := by
  constructor
  · rintro ⟨enabled, early⟩; exact ⟨⟨enabled, early⟩, rfl⟩
  · rintro ⟨⟨enabled, early⟩, rfl⟩; exact .track enabled early

theorem Enqueues.unique (enqueues : Enqueues interval call followUp)
    (again : Enqueues interval call other) : followUp = other := by
  cases enqueues
  cases again
  rfl

theorem removes_due_iff {head : BlockNumber} :
    Removes interval followUp (.due head) ↔
      followUp.nextCheck ≤ head ∧ head ≤ followUp.deadline ∨ followUp.deadline < head := by
  constructor
  · rintro (⟨due, alive⟩ | expired | ⟨⟨⟩, _⟩)
    · exact .inl ⟨due, alive⟩
    · exact .inr expired
  · rintro (⟨due, alive⟩ | expired)
    · exact .returned due alive
    · exact .discarded expired

theorem not_removes_due_iff {head : BlockNumber} :
    ¬ Removes interval followUp (.due head) ↔
      head < followUp.nextCheck ∧ head ≤ followUp.deadline := by
  rw [removes_due_iff, not_or, not_and_or, UInt64.not_le, UInt64.not_le, UInt64.not_lt]
  constructor
  · rintro ⟨waiting | late, alive⟩
    · exact ⟨waiting, alive⟩
    · exact absurd late (UInt64.not_lt.2 alive)
  · rintro ⟨waiting, alive⟩; exact ⟨.inl waiting, alive⟩

theorem removes_track_iff {head : BlockNumber} {block : BlockRef} {commitment : Commitment}
    {deadline : BlockNumber} :
    Removes interval followUp (.track head block commitment deadline) ↔
      (0 < interval ∧ head.later interval ≤ deadline) ∧
        Table.Key.of block.number commitment = followUp.key := by
  constructor
  · rintro (_ | _ | ⟨enqueues, same⟩)
    obtain ⟨accepted, rfl⟩ := enqueues_track_iff.1 enqueues
    exact ⟨accepted, same⟩
  · rintro ⟨accepted, same⟩
    exact .replaced (enqueues_track_iff.2 ⟨accepted, rfl⟩) same

/-! ## One call -/

@[simp] theorem interval_perform (followUps : FollowUps) (call : Call) :
    (followUps.perform call).2.interval = followUps.interval := by
  cases call with
  | track head block commitment deadline => exact interval_track
  | due head => rfl
  | clear => rfl

theorem mem_perform : followUp ∈ (followUps.perform call).2.entries.values ↔
    Enqueues followUps.interval call followUp ∨
      followUp ∈ followUps.entries.values ∧ ¬ Removes followUps.interval followUp call := by
  cases call with
  | track head block commitment deadline =>
    rw [enqueues_track_iff, removes_track_iff]
    by_cases accepted : 0 < followUps.interval ∧ head.later followUps.interval ≤ deadline
    · simp only [accepted, true_and, and_self]
      constructor
      · intro mem
        rcases eq_or_mem_of_mem_track mem with rfl | old
        · exact .inl rfl
        · by_cases same : Table.Key.of block.number commitment = followUp.key
          · -- under this key stands what is tracked now
            exact .inl (eq_of_mem_values mem (mem_track accepted.1 accepted.2) same.symm)
          · exact .inr ⟨old, same⟩
      · rintro (rfl | ⟨old, apart⟩)
        · exact mem_track accepted.1 accepted.2
        · exact mem_track_of_ne old (Ne.symm apart)
    · have unchanged : followUps.track head block commitment deadline = followUps := by
        refine track_eq_self ?_
        by_cases off : followUps.interval = 0
        · exact .inl off
        · refine .inr (UInt64.not_le.1 fun early => accepted ⟨?_, early⟩)
          exact UInt64.pos_iff_ne_zero.2 off
      simp [perform, unchanged, accepted]
  | due head =>
    have none : ¬ Enqueues followUps.interval (.due head) followUp := nofun
    rw [not_removes_due_iff]
    simp only [none, false_or]
    exact mem_rest
  | clear =>
    have none : ¬ Enqueues followUps.interval .clear followUp := nofun
    have removed : Removes followUps.interval followUp .clear := .cleared
    simp [perform, clear, new, Table.empty, Table.values, none, removed]

/-! ## All calls -/

@[simp] theorem interval_performAll (followUps : FollowUps) (calls : List Call) :
    (followUps.performAll calls).2.interval = followUps.interval := by
  induction calls generalizing followUps with
  | nil => rfl
  | cons call rest ih => exact (ih _).trans (interval_perform followUps call)

theorem performAll_append_singleton (followUps : FollowUps) (calls : List Call) (call : Call) :
    (followUps.performAll (calls ++ [call])).2 =
      ((followUps.performAll calls).2.perform call).2 := by
  induction calls generalizing followUps with
  | nil => rfl
  | cons first rest ih => exact ih _

theorem length_performAll (followUps : FollowUps) (calls : List Call) :
    (followUps.performAll calls).1.length = calls.length := by
  induction calls generalizing followUps with
  | nil => rfl
  | cons first rest ih => exact congrArg (· + 1) (ih _)

theorem getElem?_performAll (followUps : FollowUps) (calls : List Call) (place : Nat) :
    (followUps.performAll calls).1[place]? = calls[place]?.map fun call =>
      ((followUps.performAll (calls.take place)).2.perform call).1 := by
  induction calls generalizing followUps place with
  | nil => rfl
  | cons first rest ih =>
    cases place with
    | zero => rfl
    | succ place => exact ih _ place

theorem getElem?_concat_eq_some_iff {found : Call} :
    (calls ++ [call])[place]? = some found ↔
      calls[place]? = some found ∨ place = calls.length ∧ found = call := by
  rcases Nat.lt_trichotomy place calls.length with before | rfl | beyond
  · rw [List.getElem?_append_left before]
    exact (or_iff_left fun last => Nat.ne_of_lt before last.1).symm
  · rw [List.getElem?_concat_length, List.getElem?_eq_none (Nat.le_refl _)]
    simp [eq_comm]
  · have outside : (calls ++ [call]).length ≤ place := by
      rwa [List.length_append, List.length_singleton]
    rw [List.getElem?_eq_none outside, List.getElem?_eq_none (Nat.le_of_lt beyond)]
    simp [Nat.ne_of_gt beyond]

theorem waits_append_singleton :
    Waits interval (calls ++ [call]) source followUp ↔
      source = calls.length ∧ Enqueues interval call followUp ∨
        Waits interval calls source followUp ∧ ¬ Removes interval followUp call := by
  have last : (calls ++ [call])[calls.length]? = some call :=
    getElem?_concat_eq_some_iff.2 (.inr ⟨rfl, rfl⟩)
  constructor
  · rintro ⟨⟨found, stands, enqueues⟩, kept⟩
    rcases getElem?_concat_eq_some_iff.1 stands with stood | ⟨rfl, rfl⟩
    · have before : source < calls.length := (List.getElem?_eq_some_iff.1 stood).1
      refine .inr ⟨⟨⟨found, stood, enqueues⟩, fun later between after stands => ?_⟩,
        kept _ _ before last⟩
      exact kept later between after (getElem?_concat_eq_some_iff.2 (.inl stands))
    · exact .inl ⟨rfl, enqueues⟩
  · rintro (⟨rfl, enqueues⟩ | ⟨⟨⟨found, stands, enqueues⟩, kept⟩, spared⟩)
    · refine ⟨⟨call, last, enqueues⟩, fun later between after stands => ?_⟩
      -- no call comes after the last one
      rcases getElem?_concat_eq_some_iff.1 stands with stood | ⟨rfl, rfl⟩
      · exact absurd (List.getElem?_eq_some_iff.1 stood).1 (Nat.not_lt.2 (Nat.le_of_lt after))
      · exact absurd after (Nat.lt_irrefl _)
    · refine ⟨⟨found, getElem?_concat_eq_some_iff.2 (.inl stands), enqueues⟩,
        fun later between after stands => ?_⟩
      rcases getElem?_concat_eq_some_iff.1 stands with stood | ⟨rfl, rfl⟩
      · exact kept later between after stood
      · exact spared

theorem mem_performAll :
    followUp ∈ ((new interval).performAll calls).2.entries.values ↔
      ∃ source, Waits interval calls source followUp := by
  induction calls using List.reverseRecOn generalizing followUp with
  | nil =>
    constructor
    · intro mem; cases mem
    · rintro ⟨source, ⟨call, stands, _⟩, _⟩; cases stands
  | append_singleton calls call ih =>
    -- the last call puts in what it enqueues and spares the rest, just as in the queue
    rw [performAll_append_singleton, mem_perform, ih, interval_performAll]
    simp only [waits_append_singleton]
    constructor
    · rintro (enqueues | ⟨⟨source, waits⟩, spared⟩)
      · exact ⟨calls.length, .inl ⟨rfl, enqueues⟩⟩
      · exact ⟨source, .inr ⟨waits, spared⟩⟩
    · rintro ⟨source, ⟨_, enqueues⟩ | ⟨waits, spared⟩⟩
      · exact .inl enqueues
      · exact .inr ⟨⟨source, waits⟩, spared⟩

/-! ## What waits -/

theorem Waits.unique (waits : Waits interval calls source followUp)
    (again : Waits interval calls source other) : followUp = other := by
  obtain ⟨call, stands, enqueues⟩ := waits.enqueued
  obtain ⟨found, standsAgain, enqueuesAgain⟩ := again.enqueued
  obtain rfl := Option.some.inj (stands.symm.trans standsAgain)
  exact enqueues.unique enqueuesAgain

/-- What was put in later has removed everything else of its commitment. -/
theorem Waits.le_of_key {later : Nat} (waits : Waits interval calls source followUp)
    (others : Waits interval calls later other) (same : followUp.key = other.key) :
    later ≤ source := by
  by_contra after
  obtain ⟨call, stands, enqueues⟩ := others.enqueued
  exact waits.kept later call (Nat.not_le.1 after) stands (.replaced enqueues same.symm)

theorem Waits.source_eq {later : Nat} (waits : Waits interval calls source followUp)
    (others : Waits interval calls later other) (same : followUp.key = other.key) :
    source = later :=
  Nat.le_antisymm (others.le_of_key waits same.symm) (waits.le_of_key others same)

theorem Waits.of_append (waits : Waits interval (calls ++ more) source followUp)
    (before : source < calls.length) : Waits interval calls source followUp := by
  obtain ⟨⟨call, stands, enqueues⟩, kept⟩ := waits
  rw [List.getElem?_append_left before] at stands
  refine ⟨⟨call, stands, enqueues⟩, fun later between after stands => ?_⟩
  have inside : later < calls.length := (List.getElem?_eq_some_iff.1 stands).1
  exact kept later between after ((List.getElem?_append_left inside).trans stands)

/-! ## What is served -/

theorem Serves.source_lt (serves : Serves interval calls place source followUp) : source < place := by
  obtain ⟨call, stands, _⟩ := serves.waits.enqueued
  exact Nat.lt_of_lt_of_le (List.getElem?_eq_some_iff.1 stands).1 (List.length_take_le place calls)

theorem Serves.removes (serves : Serves interval calls place source followUp) :
    ∃ call, calls[place]? = some call ∧ Removes interval followUp call := by
  obtain ⟨head, stands, due, alive⟩ := serves.due
  exact ⟨_, stands, .returned due alive⟩

theorem Serves.followUp_eq {later : Nat} (serves : Serves interval calls place source followUp)
    (again : Serves interval calls later source other) : followUp = other := by
  obtain ⟨call, stands, enqueues⟩ := serves.waits.enqueued
  obtain ⟨found, standsAgain, enqueuesAgain⟩ := again.waits.enqueued
  rw [List.getElem?_take_of_lt serves.source_lt] at stands
  rw [List.getElem?_take_of_lt again.source_lt] at standsAgain
  obtain rfl := Option.some.inj (stands.symm.trans standsAgain)
  exact enqueues.unique enqueuesAgain

theorem Serves.le_place {later : Nat} (serves : Serves interval calls place source followUp)
    (again : Serves interval calls later source other) : later ≤ place := by
  by_contra after
  obtain rfl := serves.followUp_eq again
  obtain ⟨call, stands, removes⟩ := serves.removes
  refine again.waits.kept place call serves.source_lt ?_ removes
  rw [List.getElem?_take_of_lt (Nat.not_le.1 after), stands]

/-- What each call puts in is returned once at most. -/
theorem Serves.place_eq {later : Nat} (serves : Serves interval calls place source followUp)
    (again : Serves interval calls later source other) : place = later :=
  Nat.le_antisymm (again.le_place serves) (serves.le_place again)

theorem mem_returned {answer : List FollowUp}
    (returned : ((new interval).performAll calls).1[place]? = some answer) :
    followUp ∈ answer ↔ ∃ source, Serves interval calls place source followUp := by
  rw [getElem?_performAll, Option.map_eq_some_iff] at returned
  obtain ⟨call, stands, rfl⟩ := returned
  cases call with
  | due head =>
    have due : followUp ∈ (((new interval).performAll (calls.take place)).2.due head).1 ↔ _ := mem_due
    rw [perform, due, mem_performAll]
    constructor
    · rintro ⟨⟨source, waits⟩, due⟩; exact ⟨source, waits, head, stands, due⟩
    · rintro ⟨source, waits, found, standsAgain, due⟩
      obtain rfl := Call.due.inj (Option.some.inj (stands.symm.trans standsAgain))
      exact ⟨⟨source, waits⟩, due⟩
  | track _ _ _ _ | clear =>
    -- nothing is returned where nothing is asked for
    constructor
    · intro mem; cases mem
    · rintro ⟨source, _, found, standsAgain, _⟩
      cases stands.symm.trans standsAgain

theorem returned_sorted {answer : List FollowUp}
    (returned : ((new interval).performAll calls).1[place]? = some answer) :
    answer.Pairwise fun a b => a.key.lt b.key = true := by
  rw [getElem?_performAll, Option.map_eq_some_iff] at returned
  obtain ⟨call, stands, rfl⟩ := returned
  cases call with
  | due head => exact due_sorted
  | track _ _ _ _ | clear => exact .nil

/-- The calls were answered as by a timed queue, and the table was left as such a queue is. -/
structure TimedQueue (interval : UInt64) (calls : List Call) (returned : List (List FollowUp))
    (last : FollowUps) : Prop where
  length_eq : returned.length = calls.length
  /-- Every call returns exactly what it serves. -/
  answers : ∀ place answer, returned[place]? = some answer → ∀ followUp,
    followUp ∈ answer ↔ ∃ source, Serves interval calls place source followUp
  sorted : ∀ answer ∈ returned, answer.Pairwise fun a b => a.key.lt b.key = true
  /-- A commitment is served by the latest call that has put it in. -/
  latest : ∀ place source other followUp otherFollowUp,
    Serves interval calls place source followUp → Serves interval calls place other otherFollowUp →
    followUp.key = otherFollowUp.key → source = other ∧ followUp = otherFollowUp
  once : ∀ source place other followUp otherFollowUp,
    Serves interval calls place source followUp → Serves interval calls other source otherFollowUp →
    place = other
  /-- The table holds what waits, each under its own key. -/
  kept : ∀ entry, entry ∈ last.entries.entries ↔
    entry.1 = entry.2.key ∧ ∃ source, Waits interval calls source entry.2
  timely : ∀ entry ∈ last.entries.entries, ∃ (source : Nat) (head : BlockNumber),
    calls[source]? = some (Call.track head entry.2.block entry.2.commitment entry.2.deadline) ∧
      entry.2.nextCheck = head.later interval ∧ entry.2.nextCheck ≤ entry.2.deadline
  /-- Asking for what is due takes that and what has expired, and changes nothing else. -/
  rest : ∀ head, (last.due head).2.entries.entries =
    last.entries.entries.filter fun entry => head < entry.2.nextCheck ∧ head ≤ entry.2.deadline
  /-- What has left the queue is gone, whatever comes after. -/
  gone : ∀ source followUp, source < calls.length → ¬ Waits interval calls source followUp →
    ∀ more, ¬ Waits interval (calls ++ more) source followUp

theorem timed_queue (interval : UInt64) (calls : List Call) :
    TimedQueue interval calls ((new interval).performAll calls).1
      ((new interval).performAll calls).2 := by
  constructor
  case length_eq => exact length_performAll _ calls
  case answers => exact fun place answer returned followUp => mem_returned returned
  case sorted =>
    intro answer mem
    obtain ⟨place, returned⟩ := List.mem_iff_getElem?.1 mem
    exact returned_sorted returned
  case latest =>
    intro place source other followUp otherFollowUp serves others same
    obtain rfl := serves.waits.source_eq others.waits same
    exact ⟨rfl, serves.waits.unique others.waits⟩
  case once => exact fun source place other followUp otherFollowUp serves again => serves.place_eq again
  case kept => exact fun entry => mem_entries.trans (and_congr_right' mem_performAll)
  case timely =>
    intro entry mem
    obtain ⟨source, ⟨call, stands, enqueues⟩, _⟩ := mem_performAll.1 (mem_entries.1 mem).2
    obtain ⟨key, followUp⟩ := entry
    cases enqueues with
    | track enabled early => exact ⟨source, _, stands, rfl, early⟩
  case rest => exact fun head => entries_rest
  case gone => exact fun source followUp before none more waits => none (waits.of_append before)

end ChallengeGame.FollowUps
