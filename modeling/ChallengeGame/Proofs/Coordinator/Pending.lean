import ChallengeGame.Proofs.BondLedger
import ChallengeGame.Proofs.Coordinator.Timeline

/-!
# Pending bonds

The ledger of a coordinator that has its bonds unlocked is a function of the timeline: it
holds a bond for every challenge that was taken since the last reorg and was not followed by
a taken unlock. A step changes both in the same way, so this is an invariant of every run,
and everything else that can be said of bonds follows from it. A bond is put into the ledger
by the commitment it was locked for and taken out by the bytes of its posting; the invariant
says that these two agree.
-/

namespace ChallengeGame.Coordinator

/-! ## Bonds in a timeline -/

def taken (job : Job) : Exchange := ⟨.offer job, .queued⟩

/-- The posting whose bond the exchange hands over to be unlocked. -/
def unlocked? : Exchange → Option Posting
  | ⟨.offer (.unlock posting), .queued⟩ => some posting
  | _ => none

def unlocked (trace : List Exchange) : List Posting := trace.filterMap unlocked?

def postingOf (pair : BlockNumber × Commitment) : Posting := Posting.of pair.1 pair.2

/-- The entry of the ledger for a challenged commitment of a block. -/
def bondOf (setup : Setup) (pair : BlockNumber × Commitment) : Table.Key × LockedBond :=
  (keyOf pair, ⟨setup.resolveDeadline pair.1, postingOf pair⟩)

def Dated.frees (posting : Posting) (dated : Dated) : Bool :=
  dated.isReset || unlocked? dated.2 == some posting

/-- A challenge of the posting was taken, and its bond is still locked. -/
def Pending (timeline : List Dated) (posting : Posting) : Prop :=
  ∃ head, Recent (Dated.frees posting) timeline (head, taken (.challenge posting))

/-- The ledger holds exactly the bonds that are pending. -/
def Accounts (setup : Setup) (timeline : List Dated) (ledger : BondLedger) : Prop :=
  ∀ entry, entry ∈ ledger.entries.entries ↔
    ∃ pair, Pending timeline (postingOf pair) ∧ entry = bondOf setup pair

variable {setup : Setup} {timeline more : List Dated} {ledger : BondLedger} {posting : Posting}
  {pair other : BlockNumber × Commitment} {exchange : Exchange} {deed : Deed} {look : Look}
  {moment last : Moment} {history : List Deed} {head : BlockRef} {unlocks : List Unlock}
  {bonds : List (BlockNumber × Posting)} {entry : Table.Key × LockedBond} {answer : Offer}

theorem postingOf_injective : Function.Injective postingOf := fun a b equal => by
  obtain ⟨block, commitment⟩ := Posting.of_injective.1 equal
  exact Prod.ext block commitment

theorem unlocked?_eq_some :
    unlocked? exchange = some posting ↔ exchange = taken (.unlock posting) := by
  constructor
  · intro handed
    unfold unlocked? at handed
    split at handed
    · cases handed; rfl
    · cases handed
  · rintro rfl; rfl

theorem mem_unlocked {trace : List Exchange} :
    posting ∈ unlocked trace ↔ taken (.unlock posting) ∈ trace := by
  simp [unlocked, List.mem_filterMap, unlocked?_eq_some]

theorem pending_append (none : ∀ dated ∈ more, dated.2 ≠ taken (.challenge posting)) :
    Pending (timeline ++ more) posting ↔
      (∀ dated ∈ more, dated.frees posting = false) ∧ Pending timeline posting := by
  unfold Pending
  simp only [recent_append]
  constructor
  · rintro ⟨head, recent | ⟨quiet, recent⟩⟩
    · exact absurd rfl (none _ recent.mem)
    · exact ⟨quiet, head, recent⟩
  · rintro ⟨quiet, head, recent⟩
    exact ⟨head, .inr ⟨quiet, recent⟩⟩

/-! ## What a deed does to bonds -/

def Deed.isTended : Deed → Bool
  | .tended _ _ _ => true
  | _ => false

theorem Look.fate_eq_delivered {job : Job} :
    look.fate setup = .delivered job ↔ look.decision setup = .act job ∧ look.answer = .queued := by
  unfold Look.fate
  split <;> simp_all

theorem challenge_mem :
    taken (.challenge posting) ∈ deed.exchanges setup ↔
      ∃ head look, deed = .looked head look ∧
        look.fate setup = .delivered (.challenge posting) := by
  constructor
  · intro mem
    cases deed with
    | looked head look => exact ⟨head, look, rfl, Look.fate_eq_delivered.2 (Look.offer_mem.1 mem)⟩
    | tended head unlocks withdrawal? =>
      simp [Deed.exchanges, taken, Unlock.exchange, withdrawalExchange] at mem
    | read head reading fetched => simp [Deed.exchanges, taken, Course.ofBatch] at mem
    | _ => simp [Deed.exchanges, taken] at mem
  · rintro ⟨head, look, rfl, fate⟩
    exact Look.offer_mem.2 (Look.fate_eq_delivered.1 fate)

theorem unlocked?_eq_none (other : deed.isTended = false) :
    ∀ exchange ∈ deed.exchanges setup, unlocked? exchange = none := by
  intro exchange mem
  by_contra handed
  obtain ⟨posting, handed⟩ := Option.ne_none_iff_exists'.1 handed
  rw [unlocked?_eq_some] at handed
  subst handed
  cases deed with
  | looked head look =>
    -- a look calls for a challenge or a resolution
    rcases Look.job_eq (Look.offer_mem.1 mem).1 with same | ⟨_, same⟩ <;> cases same
  | tended head unlocks withdrawal? => cases other
  | read head reading fetched => simp [Deed.exchanges, taken, Course.ofBatch] at mem
  | _ => simp [Deed.exchanges, taken] at mem

theorem isTended_of_unlock_mem (mem : taken (.unlock posting) ∈ deed.exchanges setup) :
    deed.isTended = true := by
  by_contra untended
  have none := unlocked?_eq_none (by simpa using untended) _ mem
  cases none

theorem Step.frees_eq_false (step : Step setup moment deed last) (going : deed.isReset = false)
    (other : deed.isTended = false) :
    ∀ dated ∈ deed.timeline setup, dated.frees posting = false := by
  intro dated mem
  simp [Dated.frees, step.isReset_timeline going dated mem,
    unlocked?_eq_none other dated.2 (mem_timeline.1 mem).2]

/-! ## Offers of bonds -/

def Unlock.key (unlock : Unlock) : Table.Key := ⟨unlock.bond.1, unlock.bond.2.commitment⟩

theorem entries_foldl_enter (unlocks : List Unlock) (ledger : BondLedger) :
    (unlocks.foldl Unlock.enter ledger).entries.entries =
      ledger.entries.entries.filter fun entry =>
        unlocks.all fun unlock => unlock.answer != .queued || entry.1 != unlock.key := by
  induction unlocks generalizing ledger with
  | nil => simp
  | cons unlock rest ih =>
    rw [List.foldl_cons, ih, Unlock.enter]
    split
    · rename_i queued
      simp [BondLedger.entries_remove, List.filter_filter, queued, Unlock.key, Bool.and_comm]
    · rename_i refused
      have free : (unlock.answer != .queued) = true := by simpa using refused
      simp only [List.all_cons, free, Bool.true_or, Bool.true_and]

theorem mem_foldl_enter :
    entry ∈ (unlocks.foldl Unlock.enter ledger).entries.entries ↔
      entry ∈ ledger.entries.entries ∧
        ∀ unlock ∈ unlocks, unlock.answer = .queued → entry.1 ≠ unlock.key := by
  rw [entries_foldl_enter, List.mem_filter, List.all_eq_true]
  refine and_congr_right fun _ => forall₂_congr fun unlock _ => ?_
  simp [imp_iff_not_or]

theorem Unlocks.isPrefix (offered : Unlocks bonds unlocks) : unlocks.map Unlock.bond <+: bonds := by
  induction offered with
  | nil => exact List.prefix_rfl
  | stop _ => exact ⟨_, rfl⟩
  | cons _ ih => exact (List.prefix_cons_inj _).2 ih

theorem Unlocks.unlocked_isPrefix (offered : Unlocks bonds unlocks) :
    unlocked (unlocks.map Unlock.exchange) <+: bonds.map Prod.snd := by
  induction offered with
  | nil => exact List.prefix_rfl
  | @stop bond answer rest refused =>
    have none : unlocked? (Unlock.exchange ⟨bond, answer⟩) = none := by
      cases answer with
      | queued => exact absurd rfl refused
      | _ => rfl
    simp [unlocked, none]
  | cons _ ih => exact (List.prefix_cons_inj _).2 ih

/-! ## The ledger and the timeline -/

theorem Accounts.mem (accounts : Accounts setup timeline ledger) :
    bondOf setup pair ∈ ledger.entries.entries ↔ Pending timeline (postingOf pair) := by
  rw [accounts]
  constructor
  · rintro ⟨other, pending, same⟩
    obtain rfl : pair = other := keyOf_injective (congrArg Prod.fst same)
    exact pending
  · intro pending; exact ⟨pair, pending, rfl⟩

theorem Accounts.mem_eligible {head : BlockNumber} {bond : BlockNumber × Posting}
    (accounts : Accounts setup timeline ledger) :
    bond ∈ ledger.eligible head ↔
      ∃ pair, Pending timeline (postingOf pair) ∧ setup.resolveDeadline pair.1 < head ∧
        bond = (pair.1, postingOf pair) := by
  rw [BondLedger.mem_eligible]
  constructor
  · rintro ⟨entry, mem, late, rfl⟩
    obtain ⟨pair, pending, rfl⟩ := (accounts entry).1 mem
    exact ⟨pair, pending, late, rfl⟩
  · rintro ⟨pair, pending, late, rfl⟩
    exact ⟨bondOf setup pair, accounts.mem.2 pending, late, rfl⟩

theorem Accounts.offered {head : BlockNumber} {books : Books} {unlock : Unlock}
    (accounts : Accounts setup timeline books.bonds)
    (offered : Unlocks (unlockable setup head books) unlocks) (mem : unlock ∈ unlocks) :
    ∃ pair, Pending timeline (postingOf pair) ∧ setup.resolveDeadline pair.1 < head ∧
      unlock.bond = (pair.1, postingOf pair) := by
  have eligible : unlock.bond ∈ unlockable setup head books :=
    offered.isPrefix.subset (List.mem_map_of_mem mem)
  unfold unlockable at eligible
  split at eligible
  · exact accounts.mem_eligible.1 eligible
  · cases eligible

/-- A bond is found in the ledger by the key of what is handed over exactly if it has the
posting of it. -/
theorem Accounts.posting_eq_iff {head : BlockNumber} {books : Books} {unlock : Unlock}
    (accounts : Accounts setup timeline books.bonds)
    (offered : Unlocks (unlockable setup head books) unlocks) (mem : unlock ∈ unlocks) :
    unlock.bond.2 = postingOf pair ↔ keyOf pair = unlock.key := by
  obtain ⟨other, _, _, bond⟩ := accounts.offered offered mem
  have key : unlock.key = keyOf other := by rw [Unlock.key, bond]; rfl
  rw [bond, key, postingOf_injective.eq_iff, keyOf_injective.eq_iff, eq_comm]

theorem Accounts.append (accounts : Accounts setup timeline ledger)
    (none : ∀ posting, ∀ dated ∈ more, dated.2 ≠ taken (.challenge posting))
    (quiet : ∀ posting, ∀ dated ∈ more, dated.frees posting = false) :
    Accounts setup (timeline ++ more) ledger := by
  intro entry
  rw [accounts]
  refine exists_congr fun pair => and_congr_left' ?_
  rw [pending_append (none _)]
  exact (and_iff_right (quiet _)).symm

section
variable {books : Books}

theorem Look.posting_of_delivered (fate : look.fate setup = .delivered (.challenge posting)) :
    look.posting = posting := by
  rcases Look.job_eq (Look.fate_eq_delivered.1 fate).1 with same | ⟨_, same⟩ <;> cases same
  rfl

theorem Look.frees_eq_false :
    ∀ dated ∈ (Deed.looked head look).timeline setup, dated.frees posting = false := by
  intro dated mem
  obtain ⟨_, mem⟩ := mem_timeline.1 mem
  have kept : dated.isReset = false := look.isReset_exchanges dated.2 mem
  have none : unlocked? dated.2 = none := unlocked?_eq_none rfl dated.2 mem
  simp [Dated.frees, kept, none]

theorem Look.pending_append :
    Pending (timeline ++ (Deed.looked head look).timeline setup) posting ↔
      look.fate setup = .delivered (.challenge posting) ∨ Pending timeline posting := by
  unfold Pending
  simp only [recent_append, exists_or]
  refine or_congr ⟨?_, fun fate => ?_⟩ (exists_congr fun _ => and_iff_right Look.frees_eq_false)
  · rintro ⟨_, recent⟩
    obtain ⟨_, _, same, fate⟩ := challenge_mem.1 (mem_timeline.1 recent.mem).2
    cases same
    exact fate
  · have mem : taken (.challenge posting) ∈ (Deed.looked head look).exchanges setup :=
      challenge_mem.2 ⟨head, look, rfl, fate⟩
    exact ⟨head, recent_of_mem (mem_timeline.2 ⟨rfl, mem⟩) Look.frees_eq_false⟩

theorem Look.bonds_enter (takes : setup.takes .unlock = true) (number : BlockNumber) :
    (look.enter setup number books).bonds =
      if look.fate setup = .delivered (.challenge look.posting) then
        books.bonds.insert look.block.number look.commitment
          (setup.resolveDeadline look.block.number)
      else books.bonds := by
  rcases fate : look.fate setup with _ | job | _ | _
  · simp [Look.enter, fate]
  · rcases Look.job_eq (Look.fate_eq_delivered.1 fate).1 with rfl | ⟨_, rfl⟩ <;>
      simp [Look.enter, Look.bonds, fate, takes]
  · simp [Look.enter, fate]
  · simp [Look.enter, fate]

theorem Look.accounts (takes : setup.takes .unlock = true)
    (accounts : Accounts setup timeline books.bonds) :
    Accounts setup (timeline ++ (Deed.looked head look).timeline setup)
      (look.enter setup head.number books).bonds := by
  intro entry
  rw [Look.bonds_enter takes]
  simp only [Look.pending_append]
  split
  · rename_i challenged
    let own : BlockNumber × Commitment := (look.block.number, look.commitment)
    rw [BondLedger.mem_insert]
    constructor
    · rintro (rfl | ⟨mem, _⟩)
      · exact ⟨own, .inl challenged, rfl⟩
      · obtain ⟨pair, locked, rfl⟩ := (accounts entry).1 mem
        exact ⟨pair, .inr locked, rfl⟩
    · rintro ⟨pair, locked, rfl⟩
      by_cases same : pair = own
      · subst same; exact .inl rfl
      · -- another commitment is not what was challenged now
        refine .inr ⟨accounts.mem.2 (locked.resolve_left fun fate => ?_), keyOf_injective.ne same⟩
        exact same (postingOf_injective (Look.posting_of_delivered fate).symm)
  · rename_i unchallenged
    rw [accounts]
    refine exists_congr fun pair => and_congr_left' (or_iff_right fun fate => ?_).symm
    have own := Look.posting_of_delivered fate
    rw [← own] at fate
    exact unchallenged fate

theorem unlock_mem {withdrawal? : Option Offer} :
    taken (.unlock posting) ∈ (Deed.tended head unlocks withdrawal?).exchanges setup ↔
      ∃ unlock ∈ unlocks, unlock.answer = .queued ∧ unlock.bond.2 = posting := by
  simp only [Deed.exchanges, List.mem_append, List.mem_map]
  constructor
  · rintro (⟨unlock, mem, same⟩ | ⟨_, _, same⟩)
    · obtain ⟨bond, answer⟩ := unlock
      cases same
      exact ⟨_, mem, rfl, rfl⟩
    · cases same
  · rintro ⟨⟨bond, answer⟩, mem, rfl, rfl⟩
    exact .inl ⟨_, mem, rfl⟩

theorem Unlocks.accounts {withdrawal? : Option Offer}
    (offered : Unlocks (unlockable setup head.number books) unlocks)
    (accounts : Accounts setup timeline books.bonds)
    (kept : ∀ dated ∈ (Deed.tended head unlocks withdrawal?).timeline setup,
      dated.isReset = false) :
    Accounts setup (timeline ++ (Deed.tended head unlocks withdrawal?).timeline setup)
      (unlocks.foldl Unlock.enter books.bonds) := by
  have none (posting : Posting) : ∀ dated ∈ (Deed.tended head unlocks withdrawal?).timeline setup,
      dated.2 ≠ taken (.challenge posting) := by
    intro dated mem same
    obtain ⟨_, mem⟩ := mem_timeline.1 mem
    rw [same] at mem
    obtain ⟨_, _, same, _⟩ := challenge_mem.1 mem
    cases same
  have quiet_iff (pair : BlockNumber × Commitment) :
      (∀ dated ∈ (Deed.tended head unlocks withdrawal?).timeline setup,
          dated.frees (postingOf pair) = false) ↔
        ∀ unlock ∈ unlocks, unlock.answer = .queued → keyOf pair ≠ unlock.key := by
    constructor
    · intro quiet unlock mem queued same
      have handed : taken (.unlock (postingOf pair)) ∈
          (Deed.tended head unlocks withdrawal?).exchanges setup :=
        unlock_mem.2 ⟨unlock, mem, queued, (accounts.posting_eq_iff offered mem).2 same⟩
      have free := quiet (head, _) (mem_timeline.2 ⟨rfl, handed⟩)
      simp [Dated.frees, unlocked?] at free
    · intro apart dated mem
      by_contra frees
      have handed : unlocked? dated.2 = some (postingOf pair) := by
        simpa [Dated.frees, kept dated mem] using frees
      rw [unlocked?_eq_some] at handed
      obtain ⟨_, mem⟩ := mem_timeline.1 mem
      rw [handed] at mem
      obtain ⟨unlock, mem, queued, same⟩ := unlock_mem.1 mem
      exact apart unlock mem queued ((accounts.posting_eq_iff offered mem).1 same)
  intro entry
  rw [mem_foldl_enter, accounts]
  simp only [pending_append (none _), quiet_iff]
  constructor
  · rintro ⟨⟨pair, pending, rfl⟩, apart⟩
    exact ⟨pair, ⟨apart, pending⟩, rfl⟩
  · rintro ⟨pair, ⟨apart, pending⟩, rfl⟩
    exact ⟨⟨pair, pending, rfl⟩, apart⟩

end

/-- Bonds change only at looks, where they are offered, and at reorgs. -/
theorem Step.bonds_eq (step : Step setup moment deed last) (going : deed.isReset = false)
    (untended : deed.isTended = false) (unlooked : ∀ head look, deed ≠ .looked head look) :
    last.books.bonds = moment.books.bonds := by
  cases step with
  | reset => cases going
  | look => exact absurd rfl (unlooked _ _)
  | tend _ _ => cases untended
  | _ => rfl

theorem Step.accounts (takes : setup.takes .unlock = true) (step : Step setup moment deed last)
    (before : Accounts setup timeline moment.books.bonds) :
    Accounts setup (timeline ++ deed.timeline setup) last.books.bonds := by
  by_cases reset : deed.isReset = true
  · -- after a reorg nothing is locked, and nothing is pending
    cases step with
    | @reset books head =>
      intro entry
      constructor
      · intro mem; cases mem
      · rintro ⟨pair, ⟨other, recent⟩, rfl⟩
        rcases recent_append.1 recent with recent | ⟨quiet, _⟩
        · have mem := (mem_timeline.1 recent.mem).2
          simp [Deed.exchanges, taken] at mem
        · have free := quiet (head, ⟨.advance head.id, .error .reorgRequired⟩)
            (mem_timeline.2 ⟨rfl, List.mem_cons_self⟩)
          simp [Dated.frees, Dated.isReset, isReset] at free
    | _ => cases reset
  · rw [Bool.not_eq_true] at reset
    have kept := step.isReset_timeline reset
    by_cases looked : ∃ head look, deed = .looked head look
    · obtain ⟨head, look, rfl⟩ := looked
      cases step
      exact Look.accounts takes before
    · by_cases tended : deed.isTended = true
      · cases step with
        | tend offered _ => exact offered.accounts before kept
        | _ => cases tended
      · rw [Bool.not_eq_true] at tended
        rw [step.bonds_eq reset tended fun head look same => looked ⟨head, look, same⟩]
        refine before.append (fun posting dated mem same => ?_) fun _ =>
          step.frees_eq_false reset tended
        have challenged := (mem_timeline.1 mem).2
        rw [same] at challenged
        obtain ⟨head, look, same, _⟩ := challenge_mem.1 challenged
        exact looked ⟨head, look, same⟩

theorem Reaches.accounts (takes : setup.takes .unlock = true)
    (reaches : Reaches setup moment history last)
    (before : Accounts setup [] moment.books.bonds) :
    Accounts setup (history.flatMap (Deed.timeline setup)) last.books.bonds := by
  induction reaches with
  | nil => exact before
  | snoc _ step ih =>
    rw [List.flatMap_append, List.flatMap_singleton]
    exact step.accounts takes ih

theorem accounts_new (setup : Setup) :
    Accounts setup [] (Books.new setup.retryInterval).bonds := by
  intro entry
  constructor
  · intro mem; cases mem
  · rintro ⟨pair, ⟨head, recent⟩, _⟩; cases recent.mem

/-- Whatever becomes of it, a bond is offered only past both windows of its commitment. -/
theorem Reaches.unlock_offered_late (reaches : Reaches setup moment history last)
    (before : Accounts setup [] moment.books.bonds)
    (mem : (head, ⟨.offer (.unlock posting), answer⟩) ∈ history.flatMap (Deed.timeline setup)) :
    ∃ pair, posting = postingOf pair ∧ setup.resolveDeadline pair.1 < head.number := by
  induction reaches with
  | nil => cases mem
  | @snoc _ _ _ deed earlier step ih =>
    rw [List.flatMap_append, List.flatMap_singleton] at mem
    rcases List.mem_append.1 mem with mem | mem
    · exact ih mem
    · obtain ⟨same, mem⟩ := mem_timeline.1 mem
      cases step with
      | tend offered _ =>
        obtain rfl : head = _ := same
        rcases List.mem_append.1 mem with mem | mem
        · obtain ⟨unlock, found, own⟩ := List.mem_map.1 mem
          by_cases takes : setup.takes .unlock = true
          · -- what is offered comes from the ledger, which holds pending bonds only
            have accounts := earlier.accounts takes before
            obtain ⟨pair, _, late, bond⟩ := accounts.offered offered found
            cases own
            exact ⟨pair, congrArg Prod.snd bond, late⟩
          · rw [unlockable, if_neg takes] at offered
            cases offered
            cases found
        · obtain ⟨_, _, own⟩ := List.mem_map.1 mem
          cases own
      | look =>
        -- a look calls for a challenge or a resolution
        rcases Look.job_eq (Look.offer_mem.1 mem).1 with same | ⟨_, same⟩ <;> cases same
      | read _ | fail _ => simp [Deed.exchanges, Course.ofBatch] at mem
      | _ => simp [Deed.exchanges] at mem

end ChallengeGame.Coordinator
