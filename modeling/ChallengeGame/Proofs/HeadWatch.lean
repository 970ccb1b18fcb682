import ChallengeGame.HeadWatch
import Mathlib.Data.List.Destutter
import Mathlib.Data.Set.Function
import Mathlib.Order.Defs.LinearOrder

/-!
# What a watch hands over

A watch only knows the last head it handed over. Of the heads that are reported to it, it hands
over each that differs from the one before, in their order, up to one that is refused or that a
shutdown comes before. It fetches nothing in between: a finalized block that no answer reported is
not handed over, however many blocks lie between two reports.
-/

namespace ChallengeGame.HeadWatch

/-! ## Moves -/

inductive Move (period : Nat) (watch : HeadWatch) : Action → HeadWatch → List Event → Prop where
  | asked {now : Nat} :
      watch.phase = .waiting → watch.due ≤ now →
      Move period watch (.tick now)
        { watch with phase := .asking now, due := nextTick period watch.due now } [.asked]
  | found {since : Nat} {head : BlockRef} :
      watch.phase = .asking since → watch.last? ≠ some head.hash →
      Move period watch (.answer (.head head)) { watch with phase := .delivering head }
        [.found head]
  /-- The head is the one that was handed over last. -/
  | unchanged {since : Nat} {head : BlockRef} :
      watch.phase = .asking since → watch.last? = some head.hash →
      Move period watch (.answer (.head head)) { watch with phase := .waiting } []
  | failed {since : Nat} {failure : Failure} :
      watch.phase = .asking since →
      Move period watch (.answer (.failed failure)) { watch with phase := .waiting } []
  | aborted {since : Nat} :
      watch.phase = .asking since →
      Move period watch (.answer .aborted) { watch with phase := .stopped } []
  | gaveUp {since now : Nat} :
      watch.phase = .asking since → since + patience ≤ now →
      Move period watch (.giveUp now) { watch with phase := .waiting } []
  | delivered {head : BlockRef} :
      watch.phase = .delivering head →
      Move period watch (.deliver true) { watch with phase := .waiting, last? := some head.hash }
        [.delivered head]
  | refused {head : BlockRef} :
      watch.phase = .delivering head →
      Move period watch (.deliver false) { watch with phase := .stopped } [.lost head]
  | cancelled : Move period watch .cancel { watch with cancelled := true } []
  | stopped :
      watch.cancelled = true → watch.phase = .waiting →
      Move period watch .stop { watch with phase := .stopped } []
  | interrupted {head : BlockRef} :
      watch.cancelled = true → watch.phase = .delivering head →
      Move period watch .stop { watch with phase := .stopped } [.lost head]

variable {period : Nat} {watch last middle : HeadWatch} {head : BlockRef}
  {action : Action} {actions rest : List Action} {shown : List Event}

theorem step?_eq_some_iff :
    watch.step? period action = some (last, shown) ↔ Move period watch action last shown := by
  constructor
  · intro stepped
    cases action with
    | tick now =>
      have stepped : watch.tick? period now = some (last, shown) := stepped
      unfold tick? at stepped
      split at stepped
      · split at stepped <;> cases stepped
        exact .asked ‹_› ‹_›
      · cases stepped
    | answer reading =>
      have stepped : watch.answer? reading = some (last, shown) := stepped
      unfold answer? at stepped
      split at stepped
      · split at stepped
        · rename_i differs
          cases stepped
          exact .found ‹_› (by simpa [isNew] using differs)
        · rename_i same
          cases stepped
          exact .unchanged ‹_› (by simpa [isNew] using same)
      · cases stepped; exact .failed ‹_›
      · cases stepped; exact .aborted ‹_›
      · cases stepped
    | giveUp now =>
      have stepped : watch.giveUp? now = some (last, shown) := stepped
      unfold giveUp? at stepped
      split at stepped
      · split at stepped <;> cases stepped
        exact .gaveUp ‹_› ‹_›
      · cases stepped
    | deliver accepted =>
      have stepped : watch.deliver? accepted = some (last, shown) := stepped
      unfold deliver? at stepped
      split at stepped <;> cases stepped
      · exact .delivered ‹_›
      · exact .refused ‹_›
    | cancel => cases stepped; exact .cancelled
    | stop =>
      have stepped : watch.stop? = some (last, shown) := stepped
      unfold stop? at stepped
      split at stepped <;> cases stepped
      · exact .stopped ‹_› ‹_›
      · exact .interrupted ‹_› ‹_›
  · intro move
    cases move with
    | asked waiting due => simp [step?, tick?, waiting, due]
    | found asking differs => simp [step?, answer?, asking, isNew, differs]
    | unchanged asking same => simp [step?, answer?, asking, isNew, same]
    | failed asking => simp [step?, answer?, asking]
    | aborted asking => simp [step?, answer?, asking]
    | gaveUp asking late => simp [step?, giveUp?, asking, late]
    | delivered delivering => simp [step?, deliver?, delivering]
    | refused delivering => simp [step?, deliver?, delivering]
    | cancelled => rfl
    | stopped told waiting => simp [step?, stop?, told, waiting]
    | interrupted told delivering => simp [step?, stop?, told, delivering]

theorem run?_cons :
    run? period watch (action :: rest) = some (last, shown) ↔
      ∃ middle own later, Move period watch action middle own ∧
        run? period middle rest = some (last, later) ∧ shown = own ++ later := by
  simp only [run?, Option.bind_eq_bind, Option.bind_eq_some_iff, Option.some.injEq, Prod.mk.injEq]
  constructor
  · rintro ⟨⟨middle, own⟩, stepped, ⟨_, later⟩, onward, rfl, rfl⟩
    exact ⟨middle, own, later, step?_eq_some_iff.1 stepped, onward, rfl⟩
  · rintro ⟨middle, own, later, move, onward, rfl⟩
    exact ⟨(middle, own), step?_eq_some_iff.2 move, (last, later), onward, rfl, rfl⟩

/-! ## Reported and handed over -/

def reported? : Action → Option BlockRef
  | .answer (.head head) => some head
  | _ => none

def reported (actions : List Action) : List BlockRef := actions.filterMap reported?

def found? : Event → Option BlockRef
  | .found head => some head
  | _ => none

def found (shown : List Event) : List BlockRef := shown.filterMap found?

def delivered? : Event → Option BlockRef
  | .delivered head => some head
  | _ => none

def delivered (shown : List Event) : List BlockRef := shown.filterMap delivered?

def lost? : Event → Option BlockRef
  | .lost head => some head
  | _ => none

def lost (shown : List Event) : List BlockRef := shown.filterMap lost?

/-- The heads of which each is another block than the one before. -/
def changes (heads : List BlockRef) : List BlockRef :=
  heads.destutter fun own other => own.hash ≠ other.hash

theorem run_stopped (stopped : watch.phase = .stopped)
    (run : run? period watch actions = some (last, shown)) :
    reported actions = [] ∧ shown = [] ∧ last.phase = .stopped := by
  induction actions generalizing watch shown with
  | nil => cases run; exact ⟨rfl, rfl, stopped⟩
  | cons action rest ih =>
    obtain ⟨middle, own, later, move, onward, rfl⟩ := run?_cons.1 run
    cases move with
    | cancelled =>
      refine ih ?_ onward
      exact stopped
    | asked phase | found phase | unchanged phase | failed phase | aborted phase
    | gaveUp phase | delivered phase | refused phase | stopped _ phase | interrupted _ phase =>
      rw [stopped] at phase
      cases phase

/-- The head that the next one has to differ from. -/
def latest? (watch : HeadWatch) : Option Hash :=
  match watch.phase with
  | .delivering head => some head.hash
  | _ => watch.last?

/-- What is found are the changes of what is reported. -/
theorem run_found {prior? : Option BlockRef} (run : run? period watch actions = some (last, shown))
    (prior : watch.latest? = prior?.map BlockRef.hash) :
    prior?.toList ++ found shown = changes (prior?.toList ++ reported actions) := by
  -- `prior?` stands for the last head that was found; only its hash is known to the watch
  induction actions generalizing watch shown prior? with
  | nil =>
    cases run
    cases prior? <;> rfl
  | cons action rest ih =>
    obtain ⟨middle, own, later, move, onward, rfl⟩ := run?_cons.1 run
    have kept (same : middle.latest? = watch.latest?) :
        prior?.toList ++ found later = changes (prior?.toList ++ reported rest) :=
      ih onward (same.trans prior)
    have ended (stopped : middle.phase = .stopped) (quiet : found own = [])
        (unreported : reported? action = none) :
        prior?.toList ++ found (own ++ later) =
          changes (prior?.toList ++ reported (action :: rest)) := by
      -- a watch that has stopped neither asks nor finds anything
      obtain ⟨none, rfl, -⟩ := run_stopped stopped onward
      rw [List.append_nil, quiet, reported, List.filterMap_cons_none unreported]
      show _ = changes (prior?.toList ++ reported rest)
      rw [none]
      cases prior? <;> rfl
    cases move with
    | @found since head asking differs =>
      have next : (some head).toList ++ found later =
          changes ((some head).toList ++ reported rest) := ih onward rfl
      cases prior? with
      | none => exact next
      | some before =>
        have other : before.hash ≠ head.hash := by
          rintro same
          exact differs (by simpa [latest?, asking, same] using prior)
        show before :: ((some head).toList ++ found later) =
          changes (before :: head :: reported rest)
        rw [next, changes, changes, List.destutter_cons_cons, if_pos other]
        rfl
    | @unchanged since head asking same =>
      have next := kept (by simp [latest?, asking])
      cases prior? with
      | none => simp [latest?, asking, same] at prior
      | some before =>
        have equal : before.hash = head.hash := by
          simpa [latest?, asking, same, eq_comm] using prior
        show before :: found later = changes (before :: head :: reported rest)
        rw [changes, List.destutter_cons_cons, if_neg (not_not.2 equal)]
        exact next
    | asked waiting _ => exact kept (by simp [latest?, waiting])
    | failed asking | gaveUp asking _ => exact kept (by simp [latest?, asking])
    | delivered delivering => exact kept (by simp [latest?, delivering])
    | cancelled => exact kept rfl
    | aborted _ | refused _ | stopped _ _ | interrupted _ _ => exact ended rfl rfl rfl

def outstanding (watch : HeadWatch) : List BlockRef :=
  match watch.phase with
  | .delivering head => [head]
  | _ => []

/-- What was found is handed over, or it is lost or still to be handed over. -/
theorem run_handed (run : run? period watch actions = some (last, shown)) :
    delivered shown ++ lost shown ++ last.outstanding = watch.outstanding ++ found shown := by
  induction actions generalizing watch shown with
  | nil =>
    cases run
    exact (List.append_nil _).symm
  | cons action rest ih =>
    obtain ⟨middle, own, later, move, onward, rfl⟩ := run?_cons.1 run
    have next := ih onward
    have ended (stopped : middle.phase = .stopped) : later = [] ∧ last.outstanding = [] := by
      obtain ⟨-, rfl, phase⟩ := run_stopped stopped onward
      exact ⟨rfl, by rw [outstanding, phase]⟩
    cases move with
    | asked phase _ | found phase _ | unchanged phase _ | failed phase | gaveUp phase _ =>
      have none : watch.outstanding = [] := by rw [outstanding, phase]
      rw [none]
      exact next
    | @delivered head phase =>
      have one : watch.outstanding = [head] := by rw [outstanding, phase]
      rw [one]
      exact congrArg (head :: ·) next
    | cancelled => exact next
    | aborted phase | stopped _ phase =>
      have none : watch.outstanding = [] := by rw [outstanding, phase]
      obtain ⟨rfl, finished⟩ := ended rfl
      rw [none, finished]
      rfl
    | @refused head phase | @interrupted head _ phase =>
      have one : watch.outstanding = [head] := by rw [outstanding, phase]
      obtain ⟨rfl, finished⟩ := ended rfl
      rw [one, finished]
      rfl

theorem run_changes {now : Nat} (run : run? period (new now) actions = some (last, shown)) :
    delivered shown ++ lost shown ++ last.outstanding = changes (reported actions) := by
  have found : found shown = changes (reported actions) :=
    run_found run (show (new now).latest? = (none : Option BlockRef).map BlockRef.hash from rfl)
  rw [← found]
  exact run_handed run

theorem delivered_isPrefix {now : Nat} (run : run? period (new now) actions = some (last, shown)) :
    delivered shown <+: changes (reported actions) := by
  rw [← run_changes run, List.append_assoc]
  exact List.prefix_append ..

/-! ## Blocks between two heads -/

/-- Reports of blocks of one chain, in which a block is known by its number as well as by its
hash, that never go back. -/
structure Follows (chain : Set BlockRef) (heads : List BlockRef) : Prop where
  numbers : Set.InjOn BlockRef.number chain
  hashes : Set.InjOn BlockRef.hash chain
  onChain : ∀ head ∈ heads, head ∈ chain
  rising : heads.Pairwise fun earlier later => earlier.number ≤ later.number

section
variable {chain : Set BlockRef} {heads earlier between later : List BlockRef}
  {first second block : BlockRef}

theorem changes_sublist (heads : List BlockRef) : (changes heads).Sublist heads :=
  List.destutter_sublist _ heads

/-- A head that is no change has the hash of one that is. -/
theorem exists_mem_changes (mem : head ∈ heads) :
    ∃ change ∈ changes heads, change.hash = head.hash := by
  cases heads with
  | nil => cases mem
  | cons start heads =>
    show ∃ change ∈ heads.destutter' _ start, _
    induction heads generalizing start head with
    | nil => exact ⟨start, List.mem_cons_self, by rw [List.mem_singleton.1 mem]⟩
    | cons next rest ih =>
      by_cases other : start.hash ≠ next.hash
      · rw [List.destutter'_cons, if_pos other]
        rcases List.mem_cons.1 mem with rfl | mem
        · exact ⟨head, List.mem_cons_self, rfl⟩
        · obtain ⟨change, found, same⟩ := ih _ mem
          exact ⟨change, List.mem_cons_of_mem _ found, same⟩
      · -- `next` is left out, and `start` before it has its hash
        rw [List.destutter'_cons, if_neg other]
        rcases List.mem_cons.1 mem with rfl | mem
        · exact ih _ List.mem_cons_self
        · rcases List.mem_cons.1 mem with rfl | mem
          · obtain ⟨change, found, same⟩ := ih start List.mem_cons_self
            exact ⟨change, found, same.trans (not_not.1 other)⟩
          · exact ih _ (List.mem_cons_of_mem _ mem)

theorem Follows.mem_changes (follows : Follows chain heads) :
    head ∈ changes heads ↔ head ∈ heads := by
  constructor
  · intro mem; exact (changes_sublist heads).subset mem
  · intro mem
    obtain ⟨change, found, same⟩ := exists_mem_changes mem
    have reported := (changes_sublist heads).subset found
    rwa [← follows.hashes (follows.onChain _ reported) (follows.onChain _ mem) same]

theorem exists_number_eq {start : BlockRef} {number : BlockNumber}
    (steps : (start :: heads).IsChain fun own next => next.number.toNat ≤ own.number.toNat + 1)
    (mem : second ∈ start :: heads) (above : start.number ≤ number)
    (below : number ≤ second.number) : ∃ head ∈ start :: heads, head.number = number := by
  induction heads generalizing start with
  | nil =>
    cases List.mem_singleton.1 mem
    exact ⟨second, List.mem_cons_self, UInt64.le_antisymm above below⟩
  | cons next rest ih =>
    -- either the number is the first one, or the next head is not beyond it
    by_cases here : start.number = number
    · exact ⟨start, List.mem_cons_self, here⟩
    · obtain ⟨step, steps⟩ := List.isChain_cons_cons.1 steps
      rw [UInt64.le_iff_toNat_le] at above below
      rw [← UInt64.toNat_inj] at here
      rcases List.mem_cons.1 mem with rfl | mem
      · omega
      · have reached : next.number ≤ number := by
          rw [UInt64.le_iff_toNat_le]; omega
        obtain ⟨head, found, same⟩ := ih steps mem reached
        exact ⟨head, List.mem_cons_of_mem _ found, same⟩

theorem exists_number_eq_of_rising {number : BlockNumber}
    (rising : heads.Pairwise fun own next => own.number ≤ next.number)
    (steps : heads.IsChain fun own next => next.number.toNat ≤ own.number.toNat + 1)
    (mem : first ∈ heads) (mem' : second ∈ heads) (above : first.number ≤ number)
    (below : number ≤ second.number) : ∃ head ∈ heads, head.number = number := by
  cases heads with
  | nil => cases mem
  | cons start rest =>
    have low : start.number ≤ first.number := by
      rcases List.mem_cons.1 mem with rfl | mem
      · exact UInt64.le_refl _
      · exact List.rel_of_pairwise_cons rising mem
    exact exists_number_eq steps mem' (UInt64.le_trans low above) below

/-- What lies between two numbers of a list that never goes back stands between them. -/
theorem mem_between
    (rising : (earlier ++ first :: between ++ second :: later).Pairwise
      fun own next => own.number ≤ next.number)
    (above : first.number < block.number) (below : block.number < second.number) :
    block ∈ earlier ++ first :: between ++ second :: later ↔ block ∈ between := by
  obtain ⟨front, back, _⟩ := List.pairwise_append.1 rising
  obtain ⟨_, _, beforeFirst⟩ := List.pairwise_append.1 front
  have afterSecond := (List.pairwise_cons.1 back).1
  constructor
  · intro mem
    rcases List.mem_append.1 mem with mem | mem
    · rcases List.mem_append.1 mem with mem | mem
      · exact absurd (beforeFirst _ mem _ List.mem_cons_self) (UInt64.not_le.2 above)
      · rcases List.mem_cons.1 mem with rfl | mem
        · exact absurd above (UInt64.lt_irrefl _)
        · exact mem
    · rcases List.mem_cons.1 mem with rfl | mem
      · exact absurd below (UInt64.lt_irrefl _)
      · exact absurd (afterSecond _ mem) (UInt64.not_le.2 below)
  · intro mem
    exact List.mem_append_left _ (List.mem_append_right _ (List.mem_cons_of_mem _ mem))

end

/-- Of the blocks between two heads that were handed over, those were handed over in between that
were reported, and no others. These are all if the reports go on block by block. -/
theorem delivered_between {now : Nat} {chain : Set BlockRef}
    {earlier between later : List BlockRef} {first second block : BlockRef}
    (run : run? period (new now) actions = some (last, shown))
    (follows : Follows chain (reported actions))
    (split : delivered shown = earlier ++ first :: between ++ second :: later)
    (mem : block ∈ chain) (above : first.number < block.number)
    (below : block.number < second.number) :
    (block ∈ between ↔ block ∈ reported actions) ∧
      ((reported actions).IsChain (fun own next => next.number.toNat ≤ own.number.toNat + 1) →
        block ∈ between) := by
  obtain ⟨rest, whole⟩ := delivered_isPrefix run
  have changed : changes (reported actions) =
      earlier ++ first :: between ++ second :: (later ++ rest) := by
    rw [← whole, split, List.append_assoc, List.cons_append]
  have exactly : block ∈ between ↔ block ∈ reported actions := by
    have rising := follows.rising.sublist (changes_sublist _)
    rw [changed] at rising
    rw [← follows.mem_changes, changed, mem_between rising above below]
  refine ⟨exactly, fun steps => exactly.2 ?_⟩
  have mem_reported {head : BlockRef}
      (mem : head ∈ earlier ++ first :: between ++ second :: (later ++ rest)) :
      head ∈ reported actions := (changes_sublist _).subset (changed ▸ mem)
  have firstReported : first ∈ reported actions := mem_reported (by simp)
  have secondReported : second ∈ reported actions := mem_reported (by simp)
  obtain ⟨head, found, same⟩ := exists_number_eq_of_rising follows.rising steps firstReported
    secondReported (UInt64.le_of_lt above) (UInt64.le_of_lt below)
  rwa [← follows.numbers (follows.onChain head found) mem same]

namespace Sample

def hash (number : UInt8) : Hash := ⟨number :: List.replicate 31 0, rfl⟩

def block (number : UInt8) : BlockRef := ⟨hash number, number.toUInt64, hash (number - 1), 0⟩

def blocks : List BlockRef := [block 100, block 101, block 102]

def polls (numbers : List UInt8) : List Action :=
  numbers.flatMap fun number =>
    [.tick (1000 * number.toNat), .answer (.head (block number)), .deliver true]

def told (numbers : List UInt8) : List Event :=
  numbers.flatMap fun number => [.asked, .found (block number), .delivered (block number)]

theorem reported_polls (numbers : List UInt8) : reported (polls numbers) = numbers.map block := by
  induction numbers with
  | nil => rfl
  | cons number rest ih => exact congrArg (block number :: ·) ih

theorem follows_polls {numbers : List UInt8} (known : ∀ number ∈ numbers, block number ∈ blocks)
    (rising : numbers.Pairwise (· ≤ ·)) :
    Follows { head | head ∈ blocks } (reported (polls numbers)) where
  numbers := fun own mem other mem' => (by decide : ∀ own ∈ blocks, ∀ other ∈ blocks,
    own.number = other.number → own = other) own mem other mem'
  hashes := fun own mem other mem' => (by decide : ∀ own ∈ blocks, ∀ other ∈ blocks,
    own.hash = other.hash → own = other) own mem other mem'
  onChain := by
    intro head mem
    rw [reported_polls] at mem
    obtain ⟨number, found, rfl⟩ := List.mem_map.1 mem
    exact known number found
  rising := by
    rw [reported_polls, List.pairwise_map]
    refine rising.imp fun {own next} le => ?_
    show own.toUInt64 ≤ next.toUInt64
    rw [UInt64.le_iff_toNat_le, UInt8.toNat_toUInt64, UInt8.toNat_toUInt64]
    exact UInt8.le_iff_toNat_le.1 le

end Sample

/-- Reports of blocks 100, 101 and 102 lead to a delivery of block 101. Reports of 100 and 102
only do not. -/
theorem delivered_between_sample :
    delivered (Sample.told [100, 101, 102]) =
        [] ++ Sample.block 100 :: [Sample.block 101] ++ Sample.block 102 :: [] ∧
      Sample.block 101 ∈ [Sample.block 101] ∧
      delivered (Sample.told [100, 102]) =
        [] ++ Sample.block 100 :: [] ++ Sample.block 102 :: [] ∧
      Sample.block 101 ∉ reported (Sample.polls [100, 102]) := by
  have dense : run? 1000 (new 0) (Sample.polls [100, 101, 102]) =
      some (⟨.waiting, 103000, some (Sample.hash 102), false⟩, Sample.told [100, 101, 102]) := rfl
  have sparse : run? 1000 (new 0) (Sample.polls [100, 102]) =
      some (⟨.waiting, 103000, some (Sample.hash 102), false⟩, Sample.told [100, 102]) := rfl
  have known : Sample.block 101 ∈ { head | head ∈ Sample.blocks } := by decide
  have near := delivered_between dense (Sample.follows_polls (by simp [Sample.blocks]) (by simp))
    (rfl : _ = [] ++ Sample.block 100 :: [Sample.block 101] ++ Sample.block 102 :: []) known
    (by decide) (by decide)
  have far := delivered_between sparse (Sample.follows_polls (by simp [Sample.blocks]) (by simp))
    (rfl : _ = [] ++ Sample.block 100 :: [] ++ Sample.block 102 :: []) known
    (by decide) (by decide)
  refine ⟨rfl, near.2 ?_, rfl, fun mem => ?_⟩
  · rw [Sample.reported_polls]; decide
  · cases far.1.2 mem

/-- A finalized block that lies between two reports is never handed over. -/
theorem block_left_out :
    ¬ ∀ (chain : Set BlockRef) (period now : Nat) (actions : List Action) (last : HeadWatch)
        (shown : List Event) (earlier between later : List BlockRef)
        (first second block : BlockRef),
      run? period (new now) actions = some (last, shown) → Follows chain (reported actions) →
      delivered shown = earlier ++ first :: between ++ second :: later → block ∈ chain →
      first.number < block.number → block.number < second.number → block ∈ between := by
  intro all
  have present := all { head | head ∈ Sample.blocks } 1000 0 (Sample.polls [100, 102]) _
    (Sample.told [100, 102]) [] [] [] (Sample.block 100) (Sample.block 102) (Sample.block 101) rfl
    (Sample.follows_polls (by simp [Sample.blocks]) (by simp)) rfl (by decide) (by decide)
    (by decide)
  cases present

end ChallengeGame.HeadWatch
