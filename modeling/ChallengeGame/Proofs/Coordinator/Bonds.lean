import ChallengeGame.Proofs.Coordinator.Pending
import Mathlib.Data.Set.List

/-!
# Bonds

No bond of a run is forgotten, unlocked early, or unlocked more often than it was locked, and
the bonds that are handed over at a head are the first of those that are eligible. All of it
is read off the ledger, which holds the pending bonds and no others.
-/

namespace ChallengeGame.Coordinator

variable {setup : Setup} {timeline more : List Dated} {ledger : BondLedger} {posting : Posting}
  {pair other : BlockNumber × Commitment} {exchange : Exchange} {deed : Deed} {look : Look}
  {moment last : Moment} {history : List Deed} {head : BlockRef} {unlocks : List Unlock}
  {bonds : List (BlockNumber × Posting)} {entry : Table.Key × LockedBond}

/-! ## The order of offers -/

theorem Accounts.eligible_eq (accounts : Accounts setup timeline ledger) (head : BlockNumber) :
    ∃ pairs : List (BlockNumber × Commitment),
      ledger.eligible head = pairs.map (fun pair => (pair.1, postingOf pair)) ∧
      (pairs.Pairwise fun a b => (keyOf a).lt (keyOf b) = true) ∧
      ∀ pair, pair ∈ pairs ↔
        Pending timeline (postingOf pair) ∧ setup.resolveDeadline pair.1 < head := by
  -- every entry is the bond of a commitment, and a table lists its entries by their keys
  let late := ledger.entries.filter fun _ bond => bond.unlockableAfter < head
  have bonds : late.entries ∈ Set.range (List.map (bondOf setup)) := by
    rw [Set.range_list_map]
    intro entry mem
    obtain ⟨pair, _, rfl⟩ := (accounts entry).1 (List.mem_filter.1 mem).1
    exact ⟨pair, rfl⟩
  obtain ⟨pairs, same⟩ := bonds
  have injective : Function.Injective (bondOf setup) :=
    fun a b equal => keyOf_injective (congrArg Prod.fst equal)
  refine ⟨pairs, ?_, ?_, fun pair => ?_⟩
  · show late.entries.map _ = _
    rw [← same, List.map_map]
    rfl
  · have sorted := late.sorted
    rw [← same, Table.Sorted, List.pairwise_map] at sorted
    exact sorted
  · rw [← List.mem_map_of_injective injective, same]
    exact List.mem_filter.trans (and_congr accounts.mem decide_eq_true_iff)

/-! ## Counting -/

theorem unlocked_eq_nil (untended : deed.isTended = false) :
    unlocked (deed.exchanges setup) = [] :=
  List.filterMap_eq_nil_iff.2 (unlocked?_eq_none untended)

theorem Accounts.count_eligible_le (accounts : Accounts setup timeline ledger)
    (head : BlockNumber) (pair : BlockNumber × Commitment) :
    ((ledger.eligible head).map Prod.snd).count (postingOf pair) ≤ ledger.count (keyOf pair) := by
  unfold BondLedger.eligible Table.filter BondLedger.count
  rw [List.map_map, List.count_eq_countP, List.countP_map, List.countP_filter]
  refine List.countP_mono_left fun entry mem same => ?_
  obtain ⟨other, _, rfl⟩ := (accounts entry).1 mem
  simp only [Function.comp_apply, bondOf, Bool.and_eq_true, beq_iff_eq] at same
  rw [postingOf_injective same.1]
  exact beq_self_eq_true _

theorem Unlocks.unlocked_exchanges_isPrefix {withdrawal? : Option Offer}
    (offered : Unlocks bonds unlocks) :
    unlocked ((Deed.tended head unlocks withdrawal?).exchanges setup) <+: bonds.map Prod.snd := by
  have none : unlocked (withdrawal?.toList.map (withdrawalExchange head.number)) = [] := by
    refine List.filterMap_eq_nil_iff.2 fun exchange mem => ?_
    obtain ⟨_, _, rfl⟩ := List.mem_map.1 mem
    rfl
  have same : unlocked ((Deed.tended head unlocks withdrawal?).exchanges setup) =
      unlocked (unlocks.map Unlock.exchange) := by
    rw [Deed.exchanges, unlocked, List.filterMap_append]
    exact (congrArg _ none).trans (List.append_nil _)
  rw [same]
  exact offered.unlocked_isPrefix

theorem Unlocks.count_le {books : Books} {withdrawal? : Option Offer}
    (offered : Unlocks (unlockable setup head.number books) unlocks)
    (accounts : Accounts setup timeline books.bonds) (pair : BlockNumber × Commitment) :
    (unlocked ((Deed.tended head unlocks withdrawal?).exchanges setup)).count (postingOf pair) +
        (unlocks.foldl Unlock.enter books.bonds).count (keyOf pair) ≤
      books.bonds.count (keyOf pair) := by
  by_cases handed :
      postingOf pair ∈ unlocked ((Deed.tended head unlocks withdrawal?).exchanges setup)
  · -- what is handed over is in the ledger no more, and was there once
    have gone : (unlocks.foldl Unlock.enter books.bonds).count (keyOf pair) = 0 := by
      refine List.countP_eq_zero.2 fun entry mem same => ?_
      obtain ⟨unlock, found, queued, own⟩ := unlock_mem.1 (mem_unlocked.1 handed)
      have key := (accounts.posting_eq_iff offered found).1 own
      exact (mem_foldl_enter.1 mem).2 unlock found queued ((beq_iff_eq.1 same).trans key)
    have eligible : ((unlockable setup head.number books).map Prod.snd).count (postingOf pair) ≤
        books.bonds.count (keyOf pair) := by
      unfold unlockable
      split
      · exact accounts.count_eligible_le head.number pair
      · exact Nat.zero_le _
    have first : unlocked ((Deed.tended head unlocks withdrawal?).exchanges setup) <+:
        (unlockable setup head.number books).map Prod.snd := offered.unlocked_exchanges_isPrefix
    have fewer := first.sublist.count_le (postingOf pair)
    omega
  · rw [List.count_eq_zero_of_not_mem handed, Nat.zero_add, BondLedger.count, entries_foldl_enter]
    exact List.Sublist.countP_le List.filter_sublist

theorem Step.unlocks_le (takes : setup.takes .unlock = true) (step : Step setup moment deed last)
    (accounts : Accounts setup timeline moment.books.bonds) (pair : BlockNumber × Commitment) :
    (unlocked (deed.exchanges setup)).count (postingOf pair) +
        last.books.bonds.count (keyOf pair) ≤
      moment.books.bonds.count (keyOf pair) +
        (deed.exchanges setup).countP (hands (challenges (postingOf pair))) := by
  cases step with
  | @look books _ head _ look =>
    rw [unlocked_eq_nil rfl, List.count_nil, Nat.zero_add, Look.bonds_enter takes]
    split
    · rename_i challenged
      have locked := @BondLedger.count_insert_le books.bonds look.block.number look.commitment
        (setup.resolveDeadline look.block.number) (keyOf pair)
      split at locked
      · rename_i same
        obtain rfl : (look.block.number, look.commitment) = pair := keyOf_injective same
        have challenge : 0 < ((Deed.looked head look).exchanges setup).countP
            (hands (challenges look.posting)) :=
          List.countP_pos_iff.2 ⟨_, challenge_mem.2 ⟨head, look, rfl, challenged⟩,
            by simp [taken, hands, challenges]⟩
        exact Nat.le_trans locked (Nat.add_le_add_left challenge _)
      · exact Nat.le_trans locked (Nat.add_le_add_left (Nat.zero_le _) _)
    · exact Nat.le_add_right _ _
  | tend offered _ => exact Nat.le_trans (offered.count_le accounts pair) (Nat.le_add_right _ _)
  | reset => exact Nat.zero_le _
  | _ =>
    rw [unlocked_eq_nil rfl, List.count_nil, Nat.zero_add]
    exact Nat.le_add_right _ _

theorem Reaches.unlocks_le (takes : setup.takes .unlock = true)
    (reaches : Reaches setup moment history last)
    (before : Accounts setup [] moment.books.bonds) (pair : BlockNumber × Commitment) :
    (unlocked (history.flatMap (Deed.exchanges setup))).count (postingOf pair) +
        last.books.bonds.count (keyOf pair) ≤
      moment.books.bonds.count (keyOf pair) +
        (history.flatMap (Deed.exchanges setup)).countP (hands (challenges (postingOf pair))) := by
  induction reaches with
  | nil => exact Nat.le_of_eq (Nat.zero_add _)
  | snoc earlier step ih =>
    have own := step.unlocks_le takes (earlier.accounts takes before) pair
    simp only [List.flatMap_append, List.flatMap_singleton, unlocked, List.filterMap_append,
      List.count_append, List.countP_append] at own ih ⊢
    omega

/-! ## Turns -/

/-- The bonds of the head are still to be offered. -/
def Stage.isEarly : Stage → Bool
  | .looking .followUps _ _ => true
  | _ => false

theorem Step.isEarly (step : Step setup moment deed last) (going : deed.starts = false)
    (early : last.stage.isEarly = true) : moment.stage.isEarly = true := by
  cases step with
  | refuse _ | enter | reset => cases going
  | @look _ round head rest look =>
    cases ended : look.result setup with
    | ok _ => rw [ended] at early; cases round <;> exact early
    | error _ => rw [ended] at early; cases early
  | _ => cases early

theorem Reaches.unlocked_isPrefix (reaches : Reaches setup moment history last)
    (going : ∀ deed ∈ history, deed.Continues head) :
    unlocked (history.flatMap (Deed.exchanges setup)) = [] ∨
      last.stage.isEarly = false ∧
        ∃ own rest between, history = own ++ rest ∧ Reaches setup moment own between ∧
          unlocked (own.flatMap (Deed.exchanges setup)) = [] ∧
          unlocked (history.flatMap (Deed.exchanges setup)) <+:
            (between.books.bonds.eligible head.number).map Prod.snd := by
  induction reaches with
  | nil => exact .inl rfl
  | @snoc middle last history deed earlier step ih =>
    have before := ih fun other mem => going other (List.mem_append_left _ mem)
    obtain ⟨own, goes⟩ := going deed (by simp)
    have whole : unlocked ((history ++ [deed]).flatMap (Deed.exchanges setup)) =
        unlocked (history.flatMap (Deed.exchanges setup)) ++ unlocked (deed.exchanges setup) := by
      simp [unlocked]
    -- only one deed of a turn offers bonds, so what was handed over before is nothing
    by_cases tended : deed.isTended = true
    · cases step with
      | @tend books head unlocks withdrawal? offered _ =>
        obtain rfl : head = _ := own
        rcases before with none | ⟨late, _⟩
        · refine .inr ⟨rfl, history, [_], _, rfl, earlier, none, ?_⟩
          rw [whole, none, List.nil_append]
          refine offered.unlocked_exchanges_isPrefix.trans ?_
          unfold unlockable
          split
          · exact List.prefix_rfl
          · exact List.nil_prefix
        · cases late
      | _ => cases tended
    · rw [Bool.not_eq_true] at tended
      rw [whole, unlocked_eq_nil tended, List.append_nil]
      rcases before with none | ⟨late, own, rest, between, rfl, reached, none, first⟩
      · exact .inl none
      · refine .inr ⟨?_, own, rest ++ [deed], between, by simp, reached, none, first⟩
        by_contra early
        rw [Bool.not_eq_false] at early
        rw [step.isEarly goes early] at late
        cases late

/-! ## At every moment of a run -/

/-- What can be said of a ledger from the timeline that led to it. -/
structure BondsAt (setup : Setup) (timeline : List Dated) (ledger : BondLedger) : Prop where
  /-- It holds the bonds of the challenges that were taken since the last reorg, each with the
  end of both windows, until an unlock is taken. -/
  locked : ∀ entry, entry ∈ ledger.entries.entries ↔
    ∃ pair, Pending timeline (postingOf pair) ∧ entry = bondOf setup pair
  /-- Past that end they are eligible, oldest block first, and by their bytes in a block. -/
  eligible : ∀ head, ∃ pairs : List (BlockNumber × Commitment),
    ledger.eligible head = pairs.map (fun pair => (pair.1, postingOf pair)) ∧
    (pairs.Pairwise fun a b => (keyOf a).lt (keyOf b) = true) ∧
    ∀ pair, pair ∈ pairs ↔ bondOf setup pair ∈ ledger.entries.entries ∧
      setup.resolveDeadline pair.1 < head
  /-- No bond is forgotten before the next reorg, and none is unlocked early. -/
  accounted : ∀ (earlier : List Dated) (head : BlockRef) (pair : BlockNumber × Commitment)
    (later : List Dated),
    timeline = earlier ++ (head, taken (.challenge (postingOf pair))) :: later →
    (∀ dated ∈ later, dated.isReset = false) →
    bondOf setup pair ∈ ledger.entries.entries ∨
      ∃ next, (next, taken (.unlock (postingOf pair))) ∈ later ∧
        setup.resolveDeadline pair.1 < next.number
  /-- No bond is unlocked more often than it was locked. -/
  balanced : ∀ pair, (unlocked (timeline.map Prod.snd)).count (postingOf pair) ≤
    (timeline.map Prod.snd).countP (hands (challenges (postingOf pair)))

/-- What can be said of the bonds in a run. -/
structure BondsKept (setup : Setup) (start : Moment) (parts : List (List Deed)) : Prop where
  moments : ∀ history rest moment, parts.flatten = history ++ rest →
    Reaches setup start history moment →
    BondsAt setup (history.flatMap (Deed.timeline setup)) moment.books.bonds
  /-- Between two reorgs exactly the bonds that are taken leave the ledger. -/
  leaves : ∀ history deed rest before after, parts.flatten = history ++ deed :: rest →
    Reaches setup start history before → Step setup before deed after → deed.isReset = false →
    ∀ entry ∈ before.books.bonds.entries.entries,
      entry ∈ after.books.bonds.entries.entries ↔
        taken (.unlock entry.2.posting) ∉ deed.exchanges setup
  /-- The bonds that are taken at a head are the first of those eligible at one moment of it. -/
  turns : ∀ earlier part later turn, parts = earlier ++ part :: later → Tells setup turn part →
    ∃ own rest moment, part = own ++ rest ∧ Reaches setup start (earlier.flatten ++ own) moment ∧
      unlocked (own.flatMap (Deed.exchanges setup)) = [] ∧
      unlocked turn.trace <+: (moment.books.bonds.eligible turn.head.number).map Prod.snd

theorem map_snd_timeline (history : List Deed) :
    (history.flatMap (Deed.timeline setup)).map Prod.snd =
      history.flatMap (Deed.exchanges setup) := by
  simp [List.map_flatMap, Deed.timeline, Function.comp_def]

theorem Reaches.unlocked_late (reaches : Reaches setup moment history last)
    (before : Accounts setup [] moment.books.bonds)
    (mem : (head, taken (.unlock (postingOf pair))) ∈ history.flatMap (Deed.timeline setup)) :
    setup.resolveDeadline pair.1 < head.number := by
  obtain ⟨other, same, late⟩ := reaches.unlock_offered_late before mem
  rw [postingOf_injective same]
  exact late

theorem Reaches.bondsAt (takes : setup.takes .unlock = true)
    (reaches : Reaches setup moment history last) (empty : moment.books.bonds = BondLedger.empty)
    (before : Accounts setup [] moment.books.bonds) :
    BondsAt setup (history.flatMap (Deed.timeline setup)) last.books.bonds := by
  have accounts := reaches.accounts takes before
  constructor
  case locked => exact accounts
  case eligible =>
    intro head
    obtain ⟨pairs, same, sorted, mem⟩ := accounts.eligible_eq head
    exact ⟨pairs, same, sorted, fun pair => (mem pair).trans (and_congr_left' accounts.mem.symm)⟩
  case accounted =>
    intro earlier head pair later split kept
    by_cases quiet : ∀ dated ∈ later, dated.frees (postingOf pair) = false
    · exact .inl (accounts.mem.2 ⟨head, earlier, later, split, quiet⟩)
    · -- the first thing that frees the bond is no reorg, so it is an unlock
      push Not at quiet
      obtain ⟨⟨next, exchange⟩, mem, frees⟩ := quiet
      have handed : unlocked? exchange = some (postingOf pair) := by
        simpa [Dated.frees, kept _ mem] using frees
      rw [unlocked?_eq_some] at handed
      subst handed
      refine .inr ⟨next, mem, reaches.unlocked_late before ?_⟩
      rw [split]
      simp [mem]
  case balanced =>
    intro pair
    have bound := reaches.unlocks_le takes before pair
    rw [empty, BondLedger.count_empty, Nat.zero_add] at bound
    rw [map_snd_timeline]
    exact Nat.le_trans (Nat.le_add_right _ _) bound

theorem Step.leaves (takes : setup.takes .unlock = true) (step : Step setup moment deed last)
    (accounts : Accounts setup timeline moment.books.bonds) (going : deed.isReset = false)
    (mem : entry ∈ moment.books.bonds.entries.entries) :
    entry ∈ last.books.bonds.entries.entries ↔
      taken (.unlock entry.2.posting) ∉ deed.exchanges setup := by
  have after := step.accounts takes accounts
  obtain ⟨pair, pending, rfl⟩ := (accounts entry).1 mem
  rw [after.mem]
  constructor
  · intro kept handed
    -- the bond would be freed by a deed that locks none
    have tended := isTended_of_unlock_mem handed
    have none : ∀ dated ∈ deed.timeline setup, dated.2 ≠ taken (.challenge (postingOf pair)) := by
      intro dated found same
      have challenged := (mem_timeline.1 found).2
      rw [same] at challenged
      obtain ⟨_, _, rfl, _⟩ := challenge_mem.1 challenged
      cases tended
    have free := ((pending_append none).1 kept).1 (deed.head, _) (mem_timeline.2 ⟨rfl, handed⟩)
    simp [Dated.frees, unlocked?, bondOf] at free
  · intro unhanded
    obtain ⟨head, recent⟩ := pending
    refine ⟨head, recent.append fun dated found => ?_⟩
    by_contra frees
    have handed : unlocked? dated.2 = some (postingOf pair) := by
      simpa [Dated.frees, step.isReset_timeline going dated found] using frees
    rw [unlocked?_eq_some] at handed
    have handedOver := (mem_timeline.1 found).2
    rw [handed] at handedOver
    exact unhanded handedOver

/-! ## Without somebody to unlock bonds -/

theorem Step.bonds_eq_empty (takes : setup.takes .unlock = false)
    (step : Step setup moment deed last) (before : moment.books.bonds = BondLedger.empty) :
    last.books.bonds = BondLedger.empty := by
  cases step with
  | @look books _ head _ look =>
    rcases fate : look.fate setup with _ | job | _ | _
    · simpa [Look.enter, fate] using before
    · cases job <;> simpa [Look.enter, Look.bonds, fate, takes] using before
    · simpa [Look.enter, fate] using before
    · simpa [Look.enter, fate] using before
  | tend offered _ =>
    -- nothing is offered
    rw [unlockable, if_neg (by simp [takes])] at offered
    cases offered
    exact before
  | reset => rfl
  | _ => exact before

theorem Reaches.bonds_eq_empty (takes : setup.takes .unlock = false)
    (reaches : Reaches setup moment history last)
    (before : moment.books.bonds = BondLedger.empty) : last.books.bonds = BondLedger.empty := by
  induction reaches with
  | nil => exact before
  | snoc _ step ih => exact step.bonds_eq_empty takes ih

/-! ## Runs -/

section
variable {books after : Books} {turns : List Turn}

theorem bondsKept {parts : List (List Deed)} (takes : setup.takes .unlock = true)
    (started : Coordinator.start setup = .ok books) (told : Told setup books turns after parts) :
    BondsKept setup ⟨.resting, books⟩ parts := by
  obtain ⟨_, rfl⟩ := start_eq_ok_iff.1 started
  have before := accounts_new setup
  constructor
  case moments =>
    intro history rest moment _ reached
    exact reached.bondsAt takes rfl before
  case leaves =>
    intro history deed rest moment later _ reached step going entry mem
    exact step.leaves takes (reached.accounts takes before) going mem
  case turns =>
    intro earlier part later turn whole tells
    have reaches := told.reaches
    rw [whole, List.flatten_append, List.flatten_cons] at reaches
    obtain ⟨moment, reached, onward⟩ := reaches.split
    obtain ⟨_, inTurn, _⟩ := onward.split
    obtain ⟨first, rest, middle, rfl, starts, _, going, step, onward⟩ := tells.uncons inTurn
    have quiet : unlocked (first.exchanges setup) = [] := by
      refine unlocked_eq_nil ?_
      cases first with
      | tended _ _ _ => cases starts
      | _ => rfl
    have trace : unlocked turn.trace =
        unlocked (rest.flatMap (Deed.exchanges setup)) := by
      rw [← tells.exchanges, List.flatMap_cons, unlocked, List.filterMap_append]
      exact (congrArg (· ++ _) quiet).trans (List.nil_append _)
    rcases onward.unlocked_isPrefix going with
      none | ⟨_, own, rest, between, rfl, toward, none, isFirst⟩
    · refine ⟨[], _, moment, rfl, by simpa using reached, rfl, ?_⟩
      rw [trace, none]
      exact List.nil_prefix
    · refine ⟨first :: own, rest, between, rfl, reached.trans (.cons step toward), ?_, ?_⟩
      · rw [List.flatMap_cons, unlocked, List.filterMap_append]
        exact List.append_eq_nil_iff.2 ⟨quiet, none⟩
      · rw [trace]; exact isFirst

/-- In every run of a fresh coordinator, however it is told, the bonds of the challenges that
were taken are all accounted for if somebody unlocks them, and there are none otherwise. -/
theorem bonds_accounted (started : Coordinator.start setup = .ok books)
    (run : Run setup books turns after) :
    (∃ parts, Told setup books turns after parts) ∧
      ∀ parts, Told setup books turns after parts →
        (setup.takes .unlock = true → BondsKept setup ⟨.resting, books⟩ parts) ∧
        (setup.takes .unlock = false → ∀ history rest moment, parts.flatten = history ++ rest →
          Reaches setup ⟨.resting, books⟩ history moment →
          moment.books.bonds.entries.entries = []) := by
  refine ⟨run.told, fun parts told => ⟨fun takes => bondsKept takes started told, ?_⟩⟩
  intro takes history rest moment _ reached
  obtain ⟨_, rfl⟩ := start_eq_ok_iff.1 started
  rw [reached.bonds_eq_empty takes rfl]
  rfl

end

/-- A coordinator with somebody to unlock bonds challenges a commitment of block 100, and is
past both windows of it at head 121. -/
def Sample.keeper : Setup := Sample.setup fun kind => kind == .challenge || kind == .unlock

def Sample.keptRun : List Turn × Books :=
  performAll Sample.keeper (Books.new 4)
    [(Sample.block 100, Sample.respond [Sample.commitment 7] (.error .pendingChallenge) .queued),
      (Sample.block 120, Sample.respond [] (.error .pendingChallenge) .queued),
      (Sample.block 121, Sample.respond [] (.error .pendingChallenge) .queued)]

theorem bonds_accounted_sample :
    Sample.keptRun.1.map (fun turn => unlocked turn.trace) =
        [[], [], [Posting.of 100 (Sample.commitment 7)]] ∧
      ∃ parts, Told Sample.keeper (Books.new 4) Sample.keptRun.1 Sample.keptRun.2 parts ∧
        BondsKept Sample.keeper ⟨.resting, Books.new 4⟩ parts := by
  have started : Coordinator.start Sample.keeper = .ok (Books.new 4) := rfl
  obtain ⟨⟨parts, told⟩, kept⟩ := bonds_accounted started (run_performAll _ _ _)
  exact ⟨rfl, parts, told, (kept parts told).1 rfl⟩

end ChallengeGame.Coordinator
