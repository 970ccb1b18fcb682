import ChallengeGame.Challenger
import ChallengeGame.Proofs.Coordinator.Turns
import ChallengeGame.Proofs.Desk.Loop

/-!
# The highest block acted on

As soon as a challenge or a resolution is taken, the coordinator tells the block of its commitment,
and it tells nothing else. So at every moment of a desk the highest block that it knows is the
highest one of what was taken up to then, and the gauge shows the same as far as it reaches.
-/

namespace ChallengeGame

namespace Coordinator

open Program (Yields yields_done yields_record)

/-! ## What is taken and what is told -/

def disputed? : Job → Option Nat
  | .challenge posting => some posting.block.toNat
  | .resolve resolution => some resolution.posting.block.toNat
  | .unlock _ | .withdraw _ => none

/-- The block of a challenge or a resolution that was taken. -/
def taken? : Exchange → Option Nat
  | ⟨.offer job, answer⟩ => if answer = .queued then disputed? job else none
  | _ => none

def told? : Exchange → Option Nat
  | ⟨.acted block, _⟩ => some block.toNat
  | _ => none

def highest (blocks : List Nat) : Nat := blocks.foldr max 0

variable {setup : Setup} {log more : List Exchange} {exchange : Exchange} {block : Nat}

theorem toNat_highestActed : (highestActed log).toNat = highest (log.filterMap told?) := by
  induction log with
  | nil => rfl
  | cons exchange rest ih =>
    match exchange with
    | ⟨.acted block, _⟩ => exact (UInt64.toNat_max ..).trans (congrArg (max block.toNat) ih)
    | ⟨.advance _, _⟩ | ⟨.input _ _, _⟩ | ⟨.status _ _, _⟩ | ⟨.offer _, _⟩ | ⟨.batch _, _⟩ =>
      exact ih

/-- Whatever is taken is told right away, and nothing else is told. -/
inductive Paired : List Exchange → Prop
  | nil : Paired []
  | quiet {exchange : Exchange} {rest : List Exchange} :
      taken? exchange = none → told? exchange = none → Paired rest → Paired (exchange :: rest)
  | pair {exchange telling : Exchange} {rest : List Exchange} {block : Nat} :
      taken? exchange = some block → told? exchange = none →
      taken? telling = none → told? telling = some block → Paired rest →
      Paired (exchange :: telling :: rest)

theorem Paired.append (first : Paired log) (second : Paired more) : Paired (log ++ more) := by
  induction first with
  | nil => exact second
  | quiet taken told _ ih => exact .quiet taken told ih
  | pair taken silent quiet told _ ih => exact .pair taken silent quiet told ih

theorem paired_of_quiet (quiet : ∀ exchange ∈ log, taken? exchange = none ∧ told? exchange = none) :
    Paired log := by
  induction log with
  | nil => exact .nil
  | cons exchange rest ih =>
    obtain ⟨taken, told⟩ := quiet exchange List.mem_cons_self
    exact .quiet taken told (ih fun other mem => quiet other (List.mem_cons_of_mem _ mem))

theorem Paired.told_eq_taken (paired : Paired log) :
    log.filterMap told? = log.filterMap taken? := by
  induction paired with
  | nil => rfl
  | quiet taken told _ ih => simp [taken, told, ih]
  | pair taken silent quiet told _ ih => simp [taken, silent, quiet, told, ih]

/-- At any place either all that was taken is told, or it is told next. -/
theorem Paired.split (paired : Paired (log ++ more)) :
    (Paired log ∧ Paired more) ∨
      ∃ earlier exchange telling rest block, log = earlier ++ [exchange] ∧ more = telling :: rest ∧
        Paired earlier ∧ taken? exchange = some block ∧ told? exchange = none ∧
        told? telling = some block := by
  -- by induction on the pairing of the whole log, with any place to split it at
  generalize whole : log ++ more = all at paired
  induction paired generalizing log with
  | nil =>
    obtain ⟨rfl, rfl⟩ := List.append_eq_nil_iff.1 whole
    exact .inl ⟨.nil, .nil⟩
  | @quiet first rest taken told onward ih =>
    cases log with
    | nil =>
      rw [← List.nil_append more, whole]
      exact .inl ⟨.nil, .quiet taken told onward⟩
    | cons _ log =>
      obtain ⟨rfl, rfl⟩ := List.cons.inj whole
      rcases ih rfl with ⟨before, after⟩ | ⟨earlier, last, telling, rest, block, rfl, rfl, before, tail⟩
      · exact .inl ⟨.quiet taken told before, after⟩
      · exact .inr ⟨_, last, telling, rest, block, rfl, rfl, .quiet taken told before, tail⟩
  | @pair first telling rest block taken silent quiet told onward ih =>
    match log with
    | [] =>
      rw [← List.nil_append more, whole]
      exact .inl ⟨.nil, .pair taken silent quiet told onward⟩
    | [own] =>
      -- the split is right between the taking and the telling
      obtain ⟨rfl, rfl⟩ := List.cons.inj whole
      exact .inr ⟨[], own, telling, rest, block, rfl, rfl, .nil, taken, silent, told⟩
    | own :: other :: log =>
      simp only [List.cons_append, List.cons.injEq] at whole
      obtain ⟨rfl, rfl, rfl⟩ := whole
      rcases ih rfl with ⟨before, after⟩ | ⟨earlier, last, next, rest, other, rfl, rfl, before, tail⟩
      · exact .inl ⟨.pair taken silent quiet told before, after⟩
      · exact .inr ⟨_, last, next, rest, other, rfl, rfl, .pair taken silent quiet told before, tail⟩

/-! ## What a history tells -/

theorem toNat_block_of (block : BlockNumber) (commitment : Commitment) :
    (Posting.of block commitment).block.toNat = block.toNat := by
  have bound := block.toNat_lt
  rw [Posting.of, BitVec.toNat_ofNat, Nat.mod_eq_of_lt (by omega)]

theorem Look.disputed_eq {look : Look} {job : Job} (called : look.decision setup = .act job) :
    disputed? job = some look.block.number.toNat := by
  rcases Look.job_eq called with rfl | ⟨input, rfl⟩ <;>
    exact congrArg some (toNat_block_of _ _)

theorem Look.paired (look : Look) : Paired (look.exchanges setup) := by
  refine Paired.append (paired_of_quiet ?_) ?_
  · unfold Look.evaluation
    split
    · split <;> simp [taken?, told?]
    · simp [taken?, told?]
  · unfold Look.offering
    cases called : look.decision setup with
    | act job =>
      by_cases queued : look.answer = .queued
      · simp only [queued, if_true]
        exact .pair (by simpa [taken?] using disputed_eq called) rfl rfl rfl .nil
      · simp only [queued, if_false]
        exact .quiet (by simp [taken?, queued]) rfl .nil
    | nothing | retry => exact .nil

theorem Deed.paired (deed : Deed) : Paired (deed.exchanges setup) := by
  cases deed with
  | looked head look => exact look.paired
  | tended head unlocks withdrawal? =>
    refine paired_of_quiet fun exchange mem => ?_
    rcases List.mem_append.1 mem with mem | mem <;> obtain ⟨_, _, rfl⟩ := List.mem_map.1 mem <;>
      simp [taken?, told?, Unlock.exchange, withdrawalExchange, disputed?]
  | read head reading fetched =>
    refine paired_of_quiet fun exchange mem => ?_
    obtain ⟨_, _, rfl⟩ := List.mem_map.1 mem
    exact ⟨rfl, rfl⟩
  | refused _ _ | entered _ | reset _ | left _ _ =>
    exact paired_of_quiet (by simp [Deed.exchanges, taken?, told?])

theorem paired_exchanges (deeds : List Deed) : Paired (deeds.flatMap (Deed.exchanges setup)) := by
  induction deeds with
  | nil => exact .nil
  | cons deed rest ih => exact deed.paired.append ih

theorem Run.paired {books last : Books} {turns : List Turn} (run : Run setup books turns last) :
    Paired (turns.flatMap Turn.trace) := by
  obtain ⟨parts, told⟩ := run.told
  rw [← told_exchanges told.tells]
  exact paired_exchanges _

/-! ## Moments of a coordinator -/

variable {now next : Coordinator} {head : BlockRef}

def asked? (coordinator : Coordinator) : Option Query :=
  match coordinator.activity with
  | .working _ (.ask query _) => some query
  | _ => none

/-- What a coordinator does at a time, with what is exchanged. -/
inductive Moves (setup : Setup) (now : Coordinator) : List Exchange → Coordinator → Prop
  | stayed : Moves setup now [] now
  | begun {head : BlockRef} {next : Coordinator} :
      now.begin? setup head = some next → Moves setup now [] next
  | progressed {exchange : Exchange} {next : Coordinator} :
      now.progress? exchange = some next → Moves setup now [exchange] next
  | finished {head : BlockRef} {result : Except Error Unit} {next : Coordinator} :
      now.finish? = some (head, result, next) → Moves setup now [] next

/-- A coordinator that was fresh once stands where these exchanges lead: at rest after some heads,
or in the middle of another one. -/
inductive Stands (setup : Setup) : List Exchange → Activity → Prop
  | resting {turns : List Turn} {books : Books}
      (run : Run setup (Books.new setup.retryInterval) turns books) :
      Stands setup (turns.flatMap Turn.trace) (.resting books)
  | working {turns : List Turn} {books : Books} {done : List Exchange} {head : BlockRef}
      {rest : Asking Coordinator.Result}
      (run : Run setup (Books.new setup.retryInterval) turns books)
      (completes : ∀ more result, Yields rest more result →
        Yields (process setup books head) (done ++ more) result) :
      Stands setup (turns.flatMap Turn.trace ++ done) (.working head rest)

theorem Moves.stands (move : Moves setup now more next) (stands : Stands setup log now.activity) :
    Stands setup (log ++ more) next.activity := by
  cases move with
  | stayed => rwa [List.append_nil]
  | @begun head _ begun =>
    unfold begin? at begun
    split at begun
    · rename_i books resting
      cases begun
      rw [resting] at stands
      cases stands with
      | resting run => exact .working run fun _ _ yields => yields
    · cases begun
  | @progressed exchange _ moved =>
    unfold progress? at moved
    split at moved
    · rename_i head rest working
      obtain ⟨left, resumed, rfl⟩ := Option.map_eq_some_iff.1 moved
      obtain ⟨branch, rfl, rfl⟩ := Program.resume_eq_some.1 resumed
      rw [working] at stands
      cases stands with
      | @working turns _ done _ _ run completes =>
        rw [List.append_assoc]
        refine .working run fun later result yields => ?_
        rw [List.append_assoc]
        exact completes _ result (.ask yields)
    · cases moved
  | finished ends =>
    unfold finish? at ends
    split at ends
    · rename_i working
      cases ends
      rw [working] at stands
      cases stands with
      | @working turns between done _ _ run completes =>
        -- the head is done, and its turn is one more
        have turn := completes [] _ (.done _)
        rw [List.append_nil] at turn
        have runs : Run setup (Books.new setup.retryInterval) (turns ++ [⟨_, done, _⟩]) _ :=
          run_append.2 ⟨between, run, .cons turn .nil⟩
        simpa using Stands.resting runs
    · cases ends

theorem Stands.paired (stands : Stands setup log now.activity) :
    ∃ more, Paired (log ++ more) ∧ more.head?.map (·.query) = now.asked? := by
  unfold asked?
  cases working : now.activity with
  | resting books =>
    rw [working] at stands
    cases stands with
    | resting run => exact ⟨[], by simpa using run.paired, rfl⟩
  | working head rest =>
    rw [working] at stands
    cases stands with
    | @working turns books done _ _ run completes =>
      -- any answers will do to bring the work on the head to its end
      let respond := Sample.respond [] (.error .pendingChallenge) .closed
      have turn := completes _ _ (yields_record respond rest)
      have runs : Run setup (Books.new setup.retryInterval) (turns ++ [⟨head, _, _⟩]) _ :=
        run_append.2 ⟨books, run, .cons turn .nil⟩
      refine ⟨(rest.record respond).1, by simpa using runs.paired, ?_⟩
      cases rest <;> rfl

/-! ## What a coordinator knows -/

/-- The highest block that the coordinator knows is the one of all that was taken. Between the
taking of a job and the telling of its block it knows what it knew before. -/
structure KnowsHighest (log : List Exchange) (now : Coordinator) : Prop where
  settled : (∀ block, now.asked? ≠ some (.acted block)) →
    now.lastActed.toNat = highest (log.filterMap taken?)
  telling : ∀ block, now.asked? = some (.acted block) →
    ∃ earlier exchange, log = earlier ++ [exchange] ∧ taken? exchange = some block.toNat ∧
      now.lastActed.toNat = highest (earlier.filterMap taken?)
  gauge : now.gauge = min now.lastActed.toNat 0x7FFFFFFFFFFFFFFF

theorem highest_append (first second : List Nat) :
    highest (first ++ second) = max (highest first) (highest second) := by
  induction first with
  | nil => exact (Nat.zero_max _).symm
  | cons block rest ih => exact (congrArg (max block) ih).trans (Nat.max_assoc ..).symm

theorem told?_eq_some (told : told? exchange = some block) :
    ∃ number, exchange.query = .acted number ∧ number.toNat = block := by
  match exchange with
  | ⟨.acted number, _⟩ => exact ⟨number, rfl, Option.some.inj told⟩
  | ⟨.advance _, _⟩ | ⟨.input _ _, _⟩ | ⟨.status _ _, _⟩ | ⟨.offer _, _⟩ | ⟨.batch _, _⟩ =>
    cases told

theorem Moves.acted (move : Moves setup now more next) :
    next.lastActed = max now.lastActed (highestActed more) ∧
      next.gauge = max now.gauge (min (highestActed more).toNat Gauge.largest) := by
  -- all that a move changes beside the activity is what it takes notice of
  rw [← lastActed_noteAll, ← gauge_noteAll]
  cases move with
  | stayed => exact ⟨rfl, rfl⟩
  | begun begun =>
    unfold begin? at begun
    split at begun <;> cases begun
    exact ⟨rfl, rfl⟩
  | progressed moved =>
    unfold progress? at moved
    split at moved
    · obtain ⟨left, _, rfl⟩ := Option.map_eq_some_iff.1 moved
      exact ⟨rfl, rfl⟩
    · cases moved
  | finished ends =>
    unfold finish? at ends
    split at ends <;> cases ends
    exact ⟨rfl, rfl⟩

theorem Moves.le (move : Moves setup now more next) :
    now.lastActed ≤ next.lastActed ∧ now.gauge ≤ next.gauge := by
  obtain ⟨acted, gauge⟩ := move.acted
  rw [acted, gauge, UInt64.le_iff_toNat_le, UInt64.toNat_max]
  exact ⟨Nat.le_max_left .., Nat.le_max_left ..⟩

/-- All that is kept beside the books is what was told. -/
structure Noted (log : List Exchange) (now : Coordinator) : Prop where
  lastActed : now.lastActed.toNat = highest (log.filterMap told?)
  gauge : now.gauge = min now.lastActed.toNat Gauge.largest

theorem Moves.noted (move : Moves setup now more next) (noted : Noted log now) :
    Noted (log ++ more) next := by
  obtain ⟨acted, gauge⟩ := move.acted
  have raised := UInt64.toNat_max now.lastActed (highestActed more)
  rw [← acted] at raised
  constructor
  · rw [raised, noted.lastActed, toNat_highestActed, List.filterMap_append, highest_append]
  · rw [gauge, noted.gauge, raised]
    omega

theorem Noted.knowsHighest (noted : Noted log now) (stands : Stands setup log now.activity) :
    KnowsHighest log now := by
  obtain ⟨more, paired, starts⟩ := stands.paired
  rcases paired.split with ⟨before, after⟩ | ⟨earlier, exchange, telling, rest, block, rfl, rfl, before,
    taken, silent, told⟩
  · refine ⟨fun _ => ?_, fun block asked => ?_, noted.gauge⟩
    · rw [noted.lastActed, before.told_eq_taken]
    · -- nothing can be told next when everything that was taken is told
      rw [asked] at starts
      obtain ⟨⟨_, _⟩, first, ⟨⟩⟩ := Option.map_eq_some_iff.1 starts
      obtain ⟨later, rfl⟩ := List.head?_eq_some_iff.1 first
      cases after with
      | quiet _ silent _ => cases silent
      | pair taken _ _ _ _ => cases taken
  · obtain ⟨number, asks, same⟩ := told?_eq_some told
    have asked : now.asked? = some (.acted number) := by rw [← starts, ← asks]; rfl
    refine ⟨fun quiet => absurd asked (quiet number), fun block asked' => ?_, noted.gauge⟩
    obtain ⟨⟩ := asked.symm.trans asked'
    refine ⟨earlier, exchange, rfl, taken.trans (congrArg some same.symm), ?_⟩
    rw [noted.lastActed, ← before.told_eq_taken]
    simp [silent]

end Coordinator

/-! ## A desk and its coordinator -/

namespace Desk

open Coordinator (Books Exchange KnowsHighest Moves Noted Stands)

variable {setup : Coordinator.Setup} {desk last : Desk} {action : Action} {actions : List Action}
  {shown : List Event}

def Event.exchange? : Event → Option Exchange
  | .exchanged exchange => some exchange
  | _ => none

def exchanges (shown : List Event) : List Exchange := shown.filterMap Event.exchange?

theorem exchanges_discarded (heads : List BlockRef) :
    exchanges (heads.map Event.discarded) = [] := by
  induction heads with
  | nil => rfl
  | cons head rest ih => exact ih

theorem exchanges_abandoned (desk : Desk) : exchanges desk.abandoned = [] := by
  unfold abandoned
  split <;> rfl

theorem exchanges_append (first second : List Event) :
    exchanges (first ++ second) = exchanges first ++ exchanges second :=
  List.filterMap_append ..

theorem Move.moves (move : Move setup desk action last shown) :
    Moves setup desk.coordinator (exchanges shown) last.coordinator := by
  cases move with
  | handed _ begun | took _ _ begun => exact .begun begun
  | progressed _ moved => exact .progressed moved
  | finished _ _ done => exact .finished done
  | @died head result _ _ _ done =>
    have none : exchanges (.finished head result :: desk.inbox?.toList.map .discarded) = [] :=
      exchanges_discarded _
    rw [none]
    exact .finished done
  | stopped _ _ =>
    rw [exchanges_append, exchanges_abandoned, exchanges_discarded]
    exact .stayed
  | started | accepted | queuedUp | turnedAway | givenUp | letIn | refused | cancelled | closing
  | closedAgain | closeReturned => exact .stayed

theorem run_noted
    (run : run? setup (Desk.new (Books.new setup.retryInterval)) actions = some (desk, shown)) :
    Noted (exchanges shown) desk.coordinator ∧
      Stands setup (exchanges shown) desk.coordinator.activity := by
  rw [run?_eq] at run
  refine Steps.run_induction (fun _ desk shown => Noted (exchanges shown) desk.coordinator ∧
    Stands setup (exchanges shown) desk.coordinator.activity) ⟨⟨rfl, rfl⟩, .resting .nil⟩ ?_ run
  intro actions middle past action last own _ known stepped
  have moves := (Move.of_step? stepped).moves
  rw [exchanges_append]
  exact ⟨moves.noted known.1, moves.stands known.2⟩

/-- At every moment of a desk its coordinator knows the highest block of a challenge or a
resolution that was taken up to then, the metrics show it as far as they reach, and no step lowers
either of them. -/
theorem highest_block_known
    (run : run? setup (Desk.new (Books.new setup.retryInterval)) actions = some (desk, shown)) :
    KnowsHighest (exchanges shown) desk.coordinator ∧
      (∀ challenger : Challenger, challenger.desk = desk →
        challenger.metrics.highestActed = min desk.coordinator.lastActed.toNat 0x7FFFFFFFFFFFFFFF) ∧
      ∀ action later more, desk.step? setup action = some (later, more) →
        desk.coordinator.lastActed ≤ later.coordinator.lastActed ∧
          desk.coordinator.gauge ≤ later.coordinator.gauge := by
  obtain ⟨noted, stands⟩ := run_noted run
  refine ⟨noted.knowsHighest stands, ?_, fun action later more stepped => ?_⟩
  · rintro challenger rfl
    exact noted.gauge
  · exact (Move.of_step? stepped).moves.le

open Coordinator.Sample (challenger)

namespace Sample

open Coordinator.Sample (block commitment respond)

/-- A challenge of block 100 is not taken until one of block 103 was, and nobody takes the one of
block 105. -/
def handed : List Action :=
  (Coordinator.performAll challenger (Books.new 4)
    [(block 100, respond [commitment 7] (.error .pendingChallenge) .dropped),
      (block 103, respond [commitment 8] (.error .pendingChallenge) .queued),
      (block 104, respond [] (.error .pendingChallenge) .queued),
      (block 105, respond [commitment 9] (.error .pendingChallenge) .closed)]).1.flatMap fun turn =>
    .process turn.head :: turn.trace.map .progress ++ [.finish]

end Sample

theorem highest_block_known_sample :
    ∃ desk shown,
      run? challenger (Desk.new (Books.new challenger.retryInterval)) Sample.handed =
        some (desk, shown) ∧
      (exchanges shown).filterMap Coordinator.taken? = [103, 100] ∧
      desk.coordinator.lastActed = 103 ∧ KnowsHighest (exchanges shown) desk.coordinator := by
  have handed : ∃ desk shown,
      run? challenger (Desk.new (Books.new challenger.retryInterval)) Sample.handed =
        some (desk, shown) ∧
      (exchanges shown).filterMap Coordinator.taken? = [103, 100] ∧
      desk.coordinator.lastActed = 103 := ⟨_, _, rfl, rfl, rfl⟩
  obtain ⟨desk, shown, run, taken, acted⟩ := handed
  exact ⟨desk, shown, run, taken, acted, (highest_block_known run).1⟩

end Desk

end ChallengeGame
