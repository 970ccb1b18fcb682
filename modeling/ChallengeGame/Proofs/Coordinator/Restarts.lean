import ChallengeGame.Proofs.Coordinator.Bonds
import ChallengeGame.Proofs.Coordinator.Revisits

/-!
# Starting over

There are two reasons to start over: the provider calls for it when a head comes, or the node does
not know the block of a head any more when it is read. The first empties the books, so that
whatever is looked at again or offered later was recorded since. The second gives up the head and
leaves the books alone. `restarts_clean_iff` says that the later heads are free of what was
recorded before exactly if there was nothing to come back to.
-/

namespace ChallengeGame.Coordinator

/-- Whether the deed tells that everything has to start over. -/
def Deed.restarts : Deed → Bool
  | .reset _ | .read _ _ (.error (.reset _)) => true
  | _ => false

/-- Whether the deed leaves a commitment to be looked at again. -/
def Deed.records (setup : Setup) (key : Table.Key) : Deed → Bool
  | .looked head look =>
    look.key == key && look.fate setup == .undelivered && 0 < setup.retryInterval &&
      head.number.later setup.retryInterval ≤ look.deadline setup
  | _ => false

def Deed.locks (setup : Setup) (posting : Posting) : Deed → Bool
  | .looked _ look => look.fate setup == .delivered (.challenge posting)
  | _ => false

/-- Some deeds come back only to what they recorded themselves: each look at a follow-up is at one
that a deed before it left, and each bond that is offered was locked by a deed before it. -/
structure StartsAnew (setup : Setup) (since : List Deed) : Prop where
  evaluated : ∀ first head look, first ++ [.looked head look] <+: since →
    look.known?.isSome = true → ∃ deed ∈ first, deed.records setup look.key = true
  offered : ∀ first head unlocks withdrawal?,
    first ++ [.tended head unlocks withdrawal?] <+: since →
    ∀ unlock ∈ unlocks, ∃ deed ∈ first, deed.locks setup unlock.bond.2 = true

/-- There is nothing to come back to. A bond may be left that no head is high enough for. -/
structure Books.Idle (books : Books) : Prop where
  untracked : books.followUps.entries.values = []
  locked : ∀ entry ∈ books.bonds.entries.entries, ∀ head, head ≤ entry.2.unlockableAfter

variable {setup : Setup} {books kept left : Books} {turns : List Turn} {parts : List (List Deed)}
  {history since : List Deed} {deed : Deed} {moment last : Moment} {look : Look} {head : BlockRef}
  {number : BlockNumber} {followUp : FollowUp}

/-! ## What the deeds since then recorded -/

/-- All that the coordinator can still come back to was recorded by these deeds. -/
structure Owned (setup : Setup) (since : List Deed) (moment : Moment) : Prop where
  interval : moment.books.followUps.interval = setup.retryInterval
  tracked : ∀ followUp ∈ moment.books.followUps.entries.values,
    ∃ deed ∈ since, deed.records setup followUp.key = true
  awaited : ∀ subject ∈ moment.stage.subjects, subject.known?.isSome = true →
    ∃ deed ∈ since, deed.records setup subject.key = true
  locked : ∀ entry ∈ moment.books.bonds.entries.entries, ∀ head, entry.2.unlockableAfter < head →
    ∃ deed ∈ since, deed.locks setup entry.2.posting = true

theorem Look.tracked_enter (interval : books.followUps.interval = setup.retryInterval)
    (mem : followUp ∈ (look.enter setup head.number books).followUps.entries.values) :
    (followUp = look.entry setup head.number ∧
        (Deed.looked head look).records setup followUp.key = true) ∨
      followUp ∈ books.followUps.entries.values := by
  rcases Look.eq_entry_or_mem interval mem with ⟨enabled, undelivered, rfl⟩ | before
  · by_cases early : head.number.later setup.retryInterval ≤ look.deadline setup
    · refine .inl ⟨rfl, ?_⟩
      simp [Deed.records, undelivered, enabled, early, Look.entry, FollowUp.key, Subject.key]
    · -- it would come too late, so nothing was added
      rw [Look.enter_eq_self interval undelivered (.inr (UInt64.not_le.1 early))] at mem
      exact .inr mem
  · exact .inr before

theorem Look.locked_enter {entry : Table.Key × LockedBond}
    (mem : entry ∈ (look.enter setup head.number books).bonds.entries.entries) :
    (Deed.looked head look).locks setup entry.2.posting = true ∨
      entry ∈ books.bonds.entries.entries := by
  rcases fate : look.fate setup with _ | job | _ | _
  · exact .inr (by simpa [Look.enter, fate] using mem)
  · rcases Look.job_eq (Look.fate_eq_delivered.1 fate).1 with rfl | ⟨_, rfl⟩
    · simp only [Look.enter, fate, Look.bonds] at mem
      split at mem
      · rcases BondLedger.mem_insert.1 mem with rfl | ⟨before, _⟩
        · exact .inl (by simp [Deed.locks, fate, Subject.posting])
        · exact .inr before
      · exact .inr mem
    · exact .inr (by simpa [Look.enter, fate, Look.bonds] using mem)
  · exact .inr (by simpa [Look.enter, fate] using mem)
  · exact .inr (by simpa [Look.enter, fate] using mem)

theorem Stage.subjects_after {round : Round} {rest : List Subject} {subject : Subject}
    {result : Except Error Unit}
    (mem : subject ∈ (Stage.after (.looking round head rest) result).subjects) :
    subject ∈ rest := by
  cases result with
  | ok _ => exact mem
  | error _ => cases mem

theorem Step.owned (step : Step setup moment deed last) (owned : Owned setup since moment) :
    Owned setup (since ++ [deed]) last := by
  have later {p : Deed → Prop} : (∃ deed ∈ since, p deed) → ∃ other ∈ since ++ [deed], p other :=
    fun ⟨other, mem, holds⟩ => ⟨other, List.mem_append_left _ mem, holds⟩
  have own {p : Deed → Prop} (holds : p deed) : ∃ other ∈ since ++ [deed], p other :=
    ⟨deed, by simp, holds⟩
  constructor
  case interval => exact step.interval.trans owned.interval
  case tracked =>
    intro followUp mem
    cases step with
    | enter => exact later (owned.tracked followUp (FollowUps.mem_rest.1 mem).1)
    | reset => cases mem
    | look =>
      rcases Look.tracked_enter owned.interval mem with ⟨_, records⟩ | before
      · exact own records
      · exact later (owned.tracked followUp before)
    | _ => exact later (owned.tracked followUp mem)
  case awaited =>
    intro subject mem known
    cases step with
    | enter =>
      -- what is due was tracked
      obtain ⟨followUp, due, rfl⟩ := List.mem_map.1 mem
      exact later (owned.tracked followUp (FollowUps.mem_due.1 due).1)
    | look =>
      exact later (owned.awaited subject (List.mem_cons_of_mem _ (Stage.subjects_after mem)) known)
    | read =>
      -- what a block posts is no follow-up
      obtain ⟨_, _, rfl⟩ := List.mem_map.1 mem
      cases known
    | _ => cases mem
  case locked =>
    intro entry mem head late
    cases step with
    | reset => cases mem
    | look =>
      rcases Look.locked_enter mem with locks | before
      · exact own locks
      · exact later (owned.locked entry before head late)
    | tend => exact later (owned.locked entry (mem_foldl_enter.1 mem).1 head late)
    | _ => exact later (owned.locked entry mem head late)

theorem Step.evaluated (step : Step setup moment (.looked head look) last)
    (owned : Owned setup since moment) (known : look.known?.isSome = true) :
    ∃ deed ∈ since, deed.records setup look.key = true := by
  cases step
  exact owned.awaited look.toSubject List.mem_cons_self known

theorem Step.offered {unlocks : List Unlock} {withdrawal? : Option Offer} {unlock : Unlock}
    (step : Step setup moment (.tended head unlocks withdrawal?) last)
    (owned : Owned setup since moment) (mem : unlock ∈ unlocks) :
    ∃ deed ∈ since, deed.locks setup unlock.bond.2 = true := by
  cases step with
  | tend offered _ =>
    have eligible := offered.isPrefix.subset (List.mem_map_of_mem mem)
    unfold unlockable at eligible
    split at eligible
    · obtain ⟨entry, stored, late, bond⟩ := BondLedger.mem_eligible.1 eligible
      rw [← bond]
      exact owned.locked entry stored head.number late
    · cases eligible

theorem StartsAnew.concat (anew : StartsAnew setup since)
    (evaluated : ∀ head look, deed = .looked head look → look.known?.isSome = true →
      ∃ earlier ∈ since, earlier.records setup look.key = true)
    (offered : ∀ head unlocks withdrawal?, deed = .tended head unlocks withdrawal? →
      ∀ unlock ∈ unlocks, ∃ earlier ∈ since, earlier.locks setup unlock.bond.2 = true) :
    StartsAnew setup (since ++ [deed]) := by
  constructor
  case evaluated =>
    intro first head look isPrefix known
    -- either the look is the new deed, or it was there before
    rcases List.prefix_concat_iff.1 isPrefix with whole | earlier
    · obtain ⟨rfl, same⟩ := List.append_inj' whole rfl
      exact evaluated head look (List.singleton_inj.1 same).symm known
    · exact anew.evaluated first head look earlier known
  case offered =>
    intro first head unlocks withdrawal? isPrefix unlock mem
    rcases List.prefix_concat_iff.1 isPrefix with whole | earlier
    · obtain ⟨rfl, same⟩ := List.append_inj' whole rfl
      exact offered head unlocks withdrawal? (List.singleton_inj.1 same).symm unlock mem
    · exact anew.offered first head unlocks withdrawal? earlier unlock mem

theorem Reaches.startsAnew (reaches : Reaches setup moment since last)
    (owned : Owned setup [] moment) : StartsAnew setup since := by
  -- by induction on the deeds, with what they own at each moment carried along
  suffices both : Owned setup since last ∧ StartsAnew setup since from both.2
  induction reaches with
  | nil => exact ⟨owned, by constructor <;> simp⟩
  | snoc _ step ih =>
    obtain ⟨owned, anew⟩ := ih
    refine ⟨step.owned owned, anew.concat ?_ ?_⟩
    · rintro head look rfl known
      exact step.evaluated owned known
    · rintro head unlocks withdrawal? rfl unlock mem
      exact step.offered owned mem

/-! ## What is left when a block is lost -/

theorem Books.Idle.owned (idle : kept.Idle)
    (interval : kept.followUps.interval = setup.retryInterval) :
    Owned setup [] ⟨.resting, kept⟩ where
  interval := interval
  tracked := by simp [idle.untracked]
  awaited := by simp [Stage.subjects]
  locked := fun entry mem head late => absurd (idle.locked entry mem head) (UInt64.not_le.2 late)

theorem Step.nextCheck_le (step : Step setup moment deed last)
    (interval : moment.books.followUps.interval = setup.retryInterval)
    (inTime : ∀ followUp ∈ moment.books.followUps.entries.values,
      followUp.nextCheck ≤ followUp.deadline) :
    ∀ followUp ∈ last.books.followUps.entries.values, followUp.nextCheck ≤ followUp.deadline := by
  intro followUp mem
  cases step with
  | enter => exact inTime followUp (FollowUps.mem_rest.1 mem).1
  | reset => cases mem
  | look =>
    rcases Look.tracked_enter interval mem with ⟨rfl, records⟩ | before
    · simp only [Deed.records, Bool.and_eq_true, decide_eq_true_eq] at records
      exact records.2
    · exact inTime followUp before
  | _ => exact inTime followUp mem

theorem Reaches.nextCheck_le
    (reaches : Reaches setup ⟨.resting, Books.new setup.retryInterval⟩ history moment) :
    ∀ followUp ∈ moment.books.followUps.entries.values,
      followUp.nextCheck ≤ followUp.deadline := by
  induction reaches with
  | nil => intro followUp mem; cases mem
  | snoc earlier step ih => exact step.nextCheck_le earlier.interval ih

def Sample.follows : Responder := Sample.respond [] (.error .pendingChallenge) .queued

theorem Told.entered
    (told : Told setup kept [(perform setup kept head Sample.follows).1] left parts) :
    ∃ since, parts.flatten = .entered head :: since ∧
      Reaches setup ⟨.looking .followUps head ((kept.due head.number).1.map FollowUp.subject),
        (kept.due head.number).2⟩ since ⟨.resting, left⟩ := by
  obtain ⟨tells, reaches⟩ := told
  cases tells with
  | @cons _ deeds _ _ tells none =>
    cases none
    rw [List.flatten_singleton] at reaches ⊢
    obtain ⟨first, since, middle, rfl, _, same, _, step, later⟩ := tells.uncons reaches
    -- whatever the turn starts with, the provider answered that it follows
    have answered : ∀ exchange ∈ first.exchanges setup,
        exchange.answer = Sample.follows exchange.query := by
      intro exchange mem
      have mem : exchange ∈ (perform setup kept head Sample.follows).1.trace := by
        rw [← tells.exchanges]
        exact List.mem_append_left _ mem
      exact perform_answers exchange mem
    cases step with
    | enter =>
      obtain rfl := same
      exact ⟨since, rfl, later⟩
    | refuse _ | reset => simpa [Sample.follows, Sample.respond] using answered _ List.mem_cons_self

theorem Reaches.looked_first {round : Round} {subject : Subject} {rest : List Subject}
    (reaches : Reaches setup ⟨.looking round head (subject :: rest), books⟩ since ⟨.resting, left⟩) :
    ∃ look later, since = .looked head look :: later ∧ look.toSubject = subject := by
  cases since with
  | nil => cases reaches_nil.1 reaches
  | cons deed later =>
    obtain ⟨_, step, _⟩ := reaches.uncons
    cases step
    exact ⟨_, later, rfl, rfl⟩

theorem Reaches.tended_first
    (reaches : Reaches setup ⟨.looking .followUps head [], books⟩ since ⟨.resting, left⟩) :
    ∃ unlocks withdrawal? later, since = .tended head unlocks withdrawal? :: later ∧
      Unlocks (unlockable setup head.number books) unlocks := by
  cases since with
  | nil => cases reaches_nil.1 reaches
  | cons deed later =>
    obtain ⟨_, step, _⟩ := reaches.uncons
    cases step with
    | tend offered _ => exact ⟨_, _, later, rfl, offered⟩

theorem Unlocks.exists_mem {bonds : List (BlockNumber × Posting)} {unlocks : List Unlock}
    {bond : BlockNumber × Posting} (offered : Unlocks bonds unlocks) (mem : bond ∈ bonds) :
    ∃ unlock, unlock ∈ unlocks := by
  cases offered with
  | nil => cases mem
  | stop _ | cons _ => exact ⟨_, List.mem_cons_self⟩

/-- Whatever heads come, the coordinator comes back to nothing that it has in its books. -/
def ComesBackToNothing (setup : Setup) (kept : Books) : Prop :=
  ∀ turns left, Run setup kept turns left → ∀ parts, Told setup kept turns left parts →
    StartsAnew setup parts.flatten

theorem ComesBackToNothing.entered (clean : ComesBackToNothing setup kept) (head : BlockRef) :
    ∃ since left, StartsAnew setup (.entered head :: since) ∧
      Reaches setup ⟨.looking .followUps head ((kept.due head.number).1.map FollowUp.subject),
        (kept.due head.number).2⟩ since ⟨.resting, left⟩ := by
  have run : Run setup kept [(perform setup kept head Sample.follows).1]
      (perform setup kept head Sample.follows).2 :=
    .cons (yields_perform setup kept head Sample.follows) .nil
  obtain ⟨parts, told⟩ := run.told
  have anew := clean _ _ run parts told
  obtain ⟨since, whole, reaches⟩ := told.entered
  exact ⟨since, _, whole ▸ anew, reaches⟩

theorem ComesBackToNothing.untracked (clean : ComesBackToNothing setup kept)
    (inTime : ∀ followUp ∈ kept.followUps.entries.values,
      followUp.nextCheck ≤ followUp.deadline) :
    kept.followUps.entries.values = [] := by
  refine List.eq_nil_iff_forall_not_mem.2 fun followUp mem => ?_
  -- the follow-up would be looked at again at the head of its next look
  let head : BlockRef := { followUp.block with number := followUp.nextCheck }
  obtain ⟨since, _, anew, reaches⟩ := clean.entered head
  have due : followUp ∈ (kept.due head.number).1 :=
    FollowUps.mem_due.2 ⟨mem, UInt64.le_refl _, inTime followUp mem⟩
  cases handed : (kept.due head.number).1 with
  | nil => rw [handed] at due; cases due
  | cons first rest =>
    rw [handed] at reaches
    obtain ⟨look, later, rfl, same⟩ := reaches.looked_first
    have known : look.known?.isSome = true := by rw [same]; rfl
    obtain ⟨deed, mem, records⟩ := anew.evaluated [.entered head] head look ⟨later, rfl⟩ known
    rw [List.mem_singleton.1 mem] at records
    cases records

theorem ComesBackToNothing.locked (clean : ComesBackToNothing setup kept)
    (untracked : kept.followUps.entries.values = []) (takes : setup.takes .unlock = true)
    {entry : Table.Key × LockedBond} (mem : entry ∈ kept.bonds.entries.entries)
    (number : BlockNumber) : number ≤ entry.2.unlockableAfter := by
  by_contra late
  -- the bond would be offered at a head past the windows of its commitment
  let head : BlockRef := ⟨Sample.hash, number, Sample.hash, 0⟩
  obtain ⟨since, _, anew, reaches⟩ := clean.entered head
  have none : (kept.due head.number).1 = [] := by
    refine List.eq_nil_iff_forall_not_mem.2 fun followUp due => ?_
    have tracked := (FollowUps.mem_due.1 due).1
    rw [untracked] at tracked
    cases tracked
  rw [none] at reaches
  obtain ⟨unlocks, withdrawal?, later, rfl, offered⟩ := reaches.tended_first
  have eligible : (entry.1.block, entry.2.posting) ∈ unlockable setup head.number kept := by
    rw [unlockable, if_pos takes]
    exact BondLedger.mem_eligible.2 ⟨entry, mem, UInt64.not_le.1 late, rfl⟩
  obtain ⟨unlock, first⟩ := offered.exists_mem eligible
  obtain ⟨deed, mem, locks⟩ :=
    anew.offered [.entered head] head unlocks withdrawal? ⟨later, rfl⟩ unlock first
  rw [List.mem_singleton.1 mem] at locks
  cases locks

theorem ComesBackToNothing.idle (clean : ComesBackToNothing setup kept)
    (reached : Reaches setup ⟨.resting, Books.new setup.retryInterval⟩ history ⟨.resting, kept⟩) :
    kept.Idle := by
  have untracked := clean.untracked reached.nextCheck_le
  refine ⟨untracked, fun entry mem head => ?_⟩
  cases takes : setup.takes .unlock with
  | true => exact clean.locked untracked takes mem head
  | false =>
    -- where nobody unlocks bonds there are none
    have empty : kept.bonds = BondLedger.empty := reached.bonds_eq_empty takes rfl
    rw [empty] at mem
    cases mem

theorem comesBackToNothing_iff
    (reached : Reaches setup ⟨.resting, Books.new setup.retryInterval⟩ history ⟨.resting, kept⟩) :
    ComesBackToNothing setup kept ↔ kept.Idle := by
  constructor
  · exact fun clean => clean.idle reached
  · intro idle turns left _ parts told
    exact told.reaches.startsAnew (idle.owned reached.interval)

/-! ## Runs -/

theorem Step.owned_of_reset (step : Step setup moment (.reset head) last)
    (interval : moment.books.followUps.interval = setup.retryInterval) : Owned setup [] last := by
  -- the books are empty then, and no follow-up is due
  refine ⟨step.interval.trans interval, ?_, ?_, ?_⟩ <;> cases step <;> intro _ mem <;> cases mem

/-- In every run of a fresh coordinator, however it is told, all that is looked at again or offered
after the provider called for a start over was recorded since. After a block was lost the
coordinator rests with the books it had, and its later heads are free of what is in them exactly if
there is nothing to come back to. -/
theorem restarts_clean_iff (started : Coordinator.start setup = .ok books)
    (run : Run setup books turns left) :
    (∃ parts, Told setup books turns left parts) ∧
      ∀ parts, Told setup books turns left parts → ∀ history report since,
        parts.flatten = history ++ report :: since → report.restarts = true →
        (report = .reset report.head ∧ StartsAnew setup since) ∨
          ∃ reading hash kept, report = .read report.head reading (.error (.reset hash)) ∧
            Reaches setup ⟨.resting, books⟩ history ⟨.reading report.head, kept⟩ ∧
            Reaches setup ⟨.resting, kept⟩ since ⟨.resting, left⟩ ∧
            (kept.Idle → StartsAnew setup since) ∧
            (ComesBackToNothing setup kept ↔ kept.Idle) := by
  obtain ⟨_, rfl⟩ := start_eq_ok_iff.1 started
  refine ⟨run.told, fun parts told history report since whole restarts => ?_⟩
  have reaches := told.reaches
  rw [whole] at reaches
  obtain ⟨middle, before, rest⟩ := reaches.split
  obtain ⟨after, step, onward⟩ := rest.uncons
  have interval : middle.books.followUps.interval = setup.retryInterval := before.interval
  match report, restarts with
  | .reset head, _ => exact .inl ⟨rfl, onward.startsAnew (step.owned_of_reset interval)⟩
  | .read head reading (.error (.reset hash)), _ =>
    right
    have reached := before.snoc step
    cases step with
    | @fail kept _ _ _ _ =>
      exact ⟨reading, hash, kept, rfl, before, onward,
        fun idle => onward.startsAnew (idle.owned interval), comesBackToNothing_iff reached⟩

namespace Sample

def timeout : Except ProviderError Bytes := .error (.other ⟨"timeout", []⟩)

def reorganized : Responder
  | .advance _ => .error .reorgRequired
  | query => respond [] timeout .queued query

def forgotten : Responder
  | .batch (.transactions block) => .error (.notFound block)
  | query => respond [] timeout .queued query

/-- The input of a commitment of block 100 cannot be fetched, which calls for another look at
head 104. In between something happens at head 101. -/
def interlude (between : Responder) : List (BlockRef × Responder) :=
  [(block 100, respond [commitment 7] timeout .queued), (block 101, between),
    (block 104, respond [] timeout .queued)]

def interludeRun (between : Responder) : List Turn × Books :=
  performAll challenger (Books.new 4) (interlude between)

end Sample

theorem restarts_clean_iff_reorganized :
    (Sample.interludeRun Sample.reorganized).1.map (fun turn =>
        turn.trace.countP (asks (Table.Key.of 100 (Sample.commitment 7)))) = [1, 0, 0] ∧
      ∃ parts, Told Sample.challenger (Books.new 4) (Sample.interludeRun Sample.reorganized).1
          (Sample.interludeRun Sample.reorganized).2 parts ∧
        ∀ history head since, parts.flatten = history ++ .reset head :: since →
          StartsAnew Sample.challenger since := by
  obtain ⟨⟨parts, told⟩, clean⟩ :=
    restarts_clean_iff rfl (run_performAll Sample.challenger (Books.new 4) (Sample.interlude _))
  refine ⟨rfl, parts, told, fun history head since whole => ?_⟩
  rcases clean parts told history (.reset head) since whole rfl with ⟨_, anew⟩ | ⟨_, _, _, other, _⟩
  · exact anew
  · cases other

namespace Sample

def missed (known? : Option BlockNumber) : Look :=
  ⟨⟨block 100, commitment 7, known?⟩, timeout, .active, .queued⟩

def beforeLoss : List Deed :=
  [.entered (block 100), .tended (block 100) [] none,
    .read (block 100) [⟨.transactions hash, .ok [batch (commitment 7)]⟩]
      (.ok [Batch.commitmentVersion :: (commitment 7).encode]),
    .looked (block 100) (missed none), .left (block 100) none]

def loss : List Deed :=
  [.entered (block 101), .tended (block 101) [] none,
    .read (block 101) [⟨.transactions hash, .error (.notFound hash)⟩] (.error (.reset hash))]

def sinceLoss : List Deed :=
  [.entered (block 104), .looked (block 104) (missed (some 120)), .tended (block 104) [] none,
    .read (block 104) [⟨.transactions hash, .ok []⟩] (.ok []), .left (block 104) none]

theorem told_loss : Told challenger (Books.new 4) (interludeRun forgotten).1
    (interludeRun forgotten).2 [beforeLoss, loss, sinceLoss] := by
  constructor
  · have first : ∀ deed ∈ beforeLoss.tail, deed.Continues (block 100) := by
      simp [beforeLoss, Deed.Continues, Deed.head, Deed.starts]
    have second : ∀ deed ∈ loss.tail, deed.Continues (block 101) := by
      simp [loss, Deed.Continues, Deed.head, Deed.starts]
    have third : ∀ deed ∈ sinceLoss.tail, deed.Continues (block 104) := by
      simp [sinceLoss, Deed.Continues, Deed.head, Deed.starts]
    exact .cons ⟨rfl, _, _, rfl, rfl, rfl, first⟩ (.cons ⟨rfl, _, _, rfl, rfl, rfl, second⟩
      (.cons ⟨rfl, _, _, rfl, rfl, rfl, third⟩ .nil))
  · refine .cons .enter (.cons (.tend .nil rfl) (.cons (.read (.ask (.done _))) ?_))
    refine .cons (@Step.look _ _ _ _ [] (missed none)) (.cons .leave ?_)
    -- block 101 is lost, and the books stay as they are
    refine .cons .enter (.cons (.tend .nil rfl) (.cons (.fail (.ask (.done _))) ?_))
    refine .cons .enter (.cons (@Step.look _ _ _ _ [] (missed (some 120))) ?_)
    exact .cons (.tend .nil rfl) (.cons (.read (.ask (.done _))) (.cons .leave .nil))

end Sample

/-- After block 101 was lost, the commitment of block 100 is looked at again at head 104. -/
theorem recalled_after_loss :
    ∃ turns left parts history report since,
      Coordinator.start Sample.challenger = .ok (Books.new 4) ∧
      Run Sample.challenger (Books.new 4) turns left ∧
      Told Sample.challenger (Books.new 4) turns left parts ∧
      parts.flatten = history ++ report :: since ∧ report.restarts = true ∧
      ¬ StartsAnew Sample.challenger since := by
  refine ⟨_, _, _, Sample.beforeLoss ++ Sample.loss.dropLast, _, Sample.sinceLoss, rfl,
    run_performAll _ _ _, Sample.told_loss, rfl, rfl, fun anew => ?_⟩
  obtain ⟨deed, mem, records⟩ := anew.evaluated [.entered (Sample.block 104)] (Sample.block 104)
    (Sample.missed (some 120)) ⟨_, rfl⟩ rfl
  rw [List.mem_singleton.1 mem] at records
  cases records

end ChallengeGame.Coordinator
