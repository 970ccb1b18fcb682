import ChallengeGame.Proofs.TimedQueue

/-!
# Tracking a commitment once more

A call that asks to track a commitment takes the place of the entry that waits for this commitment
only if it is taken in itself. If the next look would come after the deadline the call changes
nothing, and the older entry stays and is served as if the commitment had not been tracked again.
-/

namespace ChallengeGame.FollowUps

/-- The follow-up that a call asks for, whether or not it is taken in. -/
def Call.asked? (interval : UInt64) : Call → Option FollowUp
  | .track head block commitment deadline => some ⟨block, commitment, deadline, head.later interval⟩
  | .due _ => none
  | .clear => none

/-- The call at `place` returns the follow-up, and the call at `source` is the latest one before it
that asked for just this follow-up. -/
structure Stems (interval : UInt64) (calls : List Call) (place source : Nat) (followUp : FollowUp) :
    Prop where
  returned : ∃ answer, ((new interval).performAll calls).1[place]? = some answer ∧ followUp ∈ answer
  earlier : source < place
  asked : ∃ call, calls[source]? = some call ∧ call.asked? interval = some followUp
  latest : ∀ later call, source < later → later < place → calls[later]? = some call →
    call.asked? interval ≠ some followUp

/-- Nothing is returned that stems from a call after which the same commitment was tracked again. -/
def Supersedes (interval : UInt64) (calls : List Call) : Prop :=
  ∀ place source followUp, Stems interval calls place source followUp →
    ∀ later call other, source < later → later < place → calls[later]? = some call →
      call.asked? interval = some other → other.key ≠ followUp.key

/-- After the call at `source` the call at `later` asks for the same commitment, but with a deadline
before the next look, and the call at `place` still serves what was put in at `source`. -/
structure Overlooks (interval : UInt64) (calls : List Call) (place later source : Nat)
    (followUp : FollowUp) : Prop where
  serves : Serves interval calls place source followUp
  between : source < later ∧ later < place
  refused : ∃ call other, calls[later]? = some call ∧ call.asked? interval = some other ∧
    other.key = followUp.key ∧ other.deadline < other.nextCheck

variable {interval : UInt64} {calls : List Call} {call : Call} {followUp other : FollowUp}
  {place source : Nat}

/-! ## Asking and putting in -/

theorem enqueues_iff : Enqueues interval call followUp ↔
    call.asked? interval = some followUp ∧ 0 < interval ∧ followUp.nextCheck ≤ followUp.deadline := by
  constructor
  · rintro ⟨enabled, early⟩; exact ⟨rfl, enabled, early⟩
  · rintro ⟨asked, enabled, early⟩
    cases call with
    | track head block commitment deadline =>
      obtain rfl := Option.some.inj asked
      exact .track enabled early
    | due head => cases asked
    | clear => cases asked

theorem Enqueues.asked (enqueues : Enqueues interval call followUp) :
    call.asked? interval = some followUp :=
  (enqueues_iff.1 enqueues).1

theorem Enqueues.of_asked (enqueues : Enqueues interval call followUp) {again : Call}
    (asked : again.asked? interval = some followUp) : Enqueues interval again followUp :=
  enqueues_iff.2 ⟨asked, (enqueues_iff.1 enqueues).2⟩

theorem removes_of_asked_iff (asked : call.asked? interval = some other) :
    Removes interval followUp call ↔ Enqueues interval call other ∧ other.key = followUp.key := by
  cases call with
  | track head block commitment deadline =>
    obtain rfl := Option.some.inj asked
    rw [removes_track_iff, enqueues_track_iff, and_iff_left rfl]
    rfl
  | due head => cases asked
  | clear => cases asked

/-! ## Where a returned follow-up stems from -/

theorem Serves.stems (serves : Serves interval calls place source followUp) :
    Stems interval calls place source followUp := by
  obtain ⟨call, stands, enqueues⟩ := serves.waits.enqueued
  obtain ⟨last, asks, _⟩ := serves.removes
  have inside : place < ((new interval).performAll calls).1.length := by
    rw [length_performAll]
    exact (List.getElem?_eq_some_iff.1 asks).1
  have answers := List.getElem?_eq_getElem inside
  refine ⟨⟨_, answers, (mem_returned answers).2 ⟨source, serves⟩⟩, serves.source_lt, ⟨call, ?_, ?_⟩, ?_⟩
  · rwa [List.getElem?_take_of_lt serves.source_lt] at stands
  · exact enqueues.asked
  · intro later again after before standsAgain asked
    -- asking for the same once more would have put it in once more
    refine serves.waits.kept later again after ?_ (.replaced (enqueues.of_asked asked) rfl)
    rwa [List.getElem?_take_of_lt before]

theorem Stems.source_eq {older : Nat} (stems : Stems interval calls place source followUp)
    (others : Stems interval calls place older followUp) : older = source := by
  obtain ⟨call, stands, asked⟩ := stems.asked
  obtain ⟨found, standsToo, askedToo⟩ := others.asked
  rcases Nat.lt_trichotomy older source with before | rfl | after
  · exact absurd asked (others.latest source call before stems.earlier stands)
  · rfl
  · exact absurd askedToo (stems.latest older found after others.earlier standsToo)

theorem stems_iff_serves :
    Stems interval calls place source followUp ↔ Serves interval calls place source followUp := by
  constructor
  · intro stems
    obtain ⟨answer, returned, mem⟩ := stems.returned
    obtain ⟨older, serves⟩ := (mem_returned returned).1 mem
    rwa [← stems.source_eq serves.stems]
  · exact Serves.stems

/-! ## What a later call replaces -/

theorem Serves.refused {later : Nat} (serves : Serves interval calls place source followUp)
    (after : source < later) (before : later < place) (stands : calls[later]? = some call)
    (asked : call.asked? interval = some other) (same : other.key = followUp.key) :
    other.deadline < other.nextCheck := by
  obtain ⟨_, _, enqueues⟩ := serves.waits.enqueued
  by_contra early
  -- a call that is not refused would have taken the place of the follow-up
  refine serves.waits.kept later call after ?_ ((removes_of_asked_iff asked).2 ⟨?_, same⟩)
  · rwa [List.getElem?_take_of_lt before]
  · exact enqueues_iff.2 ⟨asked, (enqueues_iff.1 enqueues).2.1, UInt64.not_lt.1 early⟩

theorem supersedes_iff : Supersedes interval calls ↔
    ∀ place later source followUp, ¬ Overlooks interval calls place later source followUp := by
  constructor
  · intro supersedes place later source followUp overlooks
    obtain ⟨call, other, stands, asked, same, _⟩ := overlooks.refused
    exact supersedes place source followUp overlooks.serves.stems later call other
      overlooks.between.1 overlooks.between.2 stands asked same
  · intro none place source followUp stems later call other after before stands asked same
    have serves := stems_iff_serves.1 stems
    have late : other.deadline < other.nextCheck := serves.refused after before stands asked same
    exact none place later source followUp
      ⟨serves, ⟨after, before⟩, call, other, stands, asked, same, late⟩

/-! ## One call -/

def held (interval : UInt64) (calls : List Call) : List FollowUp :=
  ((new interval).performAll calls).2.entries.values

theorem mem_held_append_singleton (asked : call.asked? interval = some other) :
    followUp ∈ held interval (calls ++ [call]) ↔ Enqueues interval call followUp ∨
      followUp ∈ held interval calls ∧
        ¬ (Enqueues interval call other ∧ other.key = followUp.key) := by
  rw [held, performAll_append_singleton, mem_perform, interval_performAll,
    ← removes_of_asked_iff asked]
  rfl

theorem replaces_iff (asked : call.asked? interval = some other) :
    (∀ followUp ∈ held interval (calls ++ [call]), followUp.key = other.key → followUp = other) ↔
      (0 < interval ∧ other.nextCheck ≤ other.deadline) ∨
        ∀ followUp ∈ held interval calls, followUp.key ≠ other.key := by
  have taken_iff : Enqueues interval call other ↔
      0 < interval ∧ other.nextCheck ≤ other.deadline :=
    enqueues_iff.trans (and_iff_right asked)
  rw [← taken_iff]
  constructor
  · intro replaces
    by_contra neither
    obtain ⟨refused, waiting⟩ := not_or.1 neither
    refine waiting fun followUp mem same => ?_
    have stays : followUp ∈ held interval (calls ++ [call]) :=
      (mem_held_append_singleton asked).2 (.inr ⟨mem, fun taken => refused taken.1⟩)
    obtain rfl := replaces followUp stays same
    -- what waits was put in once, and the same would have been put in again
    obtain ⟨_, ⟨_, _, enqueues⟩, _⟩ := mem_performAll.1 mem
    exact refused (enqueues.of_asked asked)
  · rintro (taken | free) followUp mem same
    · rcases (mem_held_append_singleton asked).1 mem with enqueues | ⟨_, stays⟩
      · exact enqueues.unique taken
      · exact absurd ⟨taken, same.symm⟩ stays
    · rcases (mem_held_append_singleton asked).1 mem with enqueues | ⟨old, _⟩
      · exact Option.some.inj (enqueues.asked.symm.trans asked)
      · exact absurd same (free followUp old)

/-- A commitment that is tracked again is never served as it was tracked before, unless the later call
is overlooked: it comes too late for a look before its own deadline, and the entry it leaves is
served. One call replaces what waits for its commitment exactly if it is taken in or nothing waits. -/
theorem retracking_supersedes_iff (interval : UInt64) (calls : List Call) :
    (Supersedes interval calls ↔
      ∀ place later source followUp, ¬ Overlooks interval calls place later source followUp) ∧
    ∀ call other, call.asked? interval = some other →
      ((∀ followUp ∈ held interval (calls ++ [call]), followUp.key = other.key → followUp = other) ↔
        (0 < interval ∧ other.nextCheck ≤ other.deadline) ∨
          ∀ followUp ∈ held interval calls, followUp.key ≠ other.key) :=
  ⟨supersedes_iff, fun _ _ asked => replaces_iff asked⟩

/-! ## A call that is refused -/

namespace Sample

def block : BlockRef := ⟨FixedBytes.ofNat 32 100, 100, FixedBytes.zero 32, 0⟩

def commitment : Commitment := .keccak256 (FixedBytes.splat 32 1)

/-- With looks four blocks apart the second call comes too late for one before its deadline. -/
def retracked : List Call :=
  [.track 100 block commitment 110, .track 108 block commitment 110, .due 108]

end Sample

theorem served_after_retracking : ¬ Supersedes 4 Sample.retracked := by
  intro supersedes
  let first : FollowUp := ⟨Sample.block, Sample.commitment, 110, 104⟩
  have stems : Stems 4 Sample.retracked 2 0 first := by
    refine ⟨⟨[first], by decide +kernel, List.mem_singleton.2 rfl⟩, by decide, ⟨_, rfl, rfl⟩, ?_⟩
    intro later call after before stands asked
    obtain rfl : later = 1 := by omega
    obtain rfl := Option.some.inj stands
    revert asked
    decide +kernel
  exact supersedes 2 0 first stems 1 _ _ (by decide) (by decide) rfl rfl rfl

end ChallengeGame.FollowUps
