import ChallengeGame.Proofs.Coordinator.Decisions
import ChallengeGame.Proofs.Coordinator.Once

/-!
# Undelivered commitments

A commitment that was looked at without a delivery waits for a head that is far enough. It
stays in the books until then, is looked at once more at the first such head that is not
past its deadline, and is forgotten at one that is. A reorg makes the coordinator forget it,
and a commitment whose next look would come too late is not taken in at all.
-/

namespace ChallengeGame.Coordinator

variable {setup : Setup} {key : Table.Key} {books after : Books} {turns : List Turn}
  {parts : List (List Deed)} {history rest waiting others : List Deed}
  {moment last : Moment} {deed : Deed} {followUp : FollowUp} {look : Look} {head : BlockNumber}

/-! ## The interval -/

theorem interval_start (started : Coordinator.start setup = .ok books) :
    books.followUps.interval = setup.retryInterval := by
  obtain ⟨_, rfl⟩ := start_eq_ok_iff.1 started
  rfl

theorem Look.interval_enter :
    (look.enter setup head books).followUps.interval = books.followUps.interval := by
  unfold Look.enter
  split
  · rfl
  · exact FollowUps.interval_track
  · rfl

theorem Step.interval (step : Step setup moment deed last) :
    last.books.followUps.interval = moment.books.followUps.interval := by
  cases step with
  | look => exact Look.interval_enter
  | _ => rfl

theorem Reaches.interval (reaches : Reaches setup moment history last) :
    last.books.followUps.interval = moment.books.followUps.interval := by
  induction reaches with
  | nil => rfl
  | snoc _ step ih => rw [step.interval, ih]

/-! ## Entering and keeping -/

def Look.entry (setup : Setup) (head : BlockNumber) (look : Look) : FollowUp :=
  ⟨look.block, look.commitment, look.deadline setup, head.later setup.retryInterval⟩

theorem Look.entry_mem (interval : books.followUps.interval = setup.retryInterval)
    (undelivered : look.fate setup = .undelivered) (enabled : 0 < setup.retryInterval)
    (early : head.later setup.retryInterval ≤ look.deadline setup) :
    look.entry setup head ∈ (look.enter setup head books).followUps.entries.values := by
  simp only [Look.enter, undelivered, Look.entry, ← interval] at enabled early ⊢
  exact FollowUps.mem_track enabled early

theorem Look.enter_eq_self (interval : books.followUps.interval = setup.retryInterval)
    (undelivered : look.fate setup = .undelivered)
    (off : setup.retryInterval = 0 ∨ look.deadline setup < head.later setup.retryInterval) :
    look.enter setup head books = books := by
  rw [← interval] at off
  simp only [Look.enter, undelivered, FollowUps.track_eq_self off]

/-- The deed is no new head at which a check is due. -/
def Deed.Spares (nextCheck : BlockNumber) : Deed → Prop
  | .entered head => head.number < nextCheck
  | .reset _ => False
  | _ => True

theorem Step.keeps (step : Step setup moment deed last)
    (mem : followUp ∈ moment.books.followUps.entries.values)
    (spares : deed.Spares followUp.nextCheck) (inTime : followUp.nextCheck ≤ followUp.deadline)
    (unlooked : deed.looksAt followUp.key = false) :
    followUp ∈ last.books.followUps.entries.values := by
  cases step with
  | enter =>
    have below := UInt64.le_of_lt (UInt64.lt_of_lt_of_le spares inTime)
    exact FollowUps.mem_rest.2 ⟨mem, spares, below⟩
  | reset => cases spares
  | @look books _ head _ look =>
    -- a look can only replace the follow-up of its own commitment
    have other : followUp.key ≠ Table.Key.of look.block.number look.commitment := fun same => by
      rw [same] at unlooked
      simp [Deed.looksAt, Subject.key] at unlooked
    simp only [Look.enter]
    split
    · exact mem
    · exact FollowUps.mem_track_of_ne mem other
    · exact mem
  | _ => exact mem

section
variable (started : Coordinator.start setup = .ok books) (once : MeetsOnce setup turns)
  (told : Told setup books turns after parts)
include started once told

/-- A follow-up stays in the books, and its commitment is not looked at, up to a head at
which its check is due. -/
theorem keeps_waiting (whole : parts.flatten = history ++ (waiting ++ others))
    (reached : Reaches setup ⟨.resting, books⟩ history moment)
    (mem : followUp ∈ moment.books.followUps.entries.values)
    (inTime : followUp.nextCheck ≤ followUp.deadline)
    (spares : ∀ deed ∈ waiting, deed.Spares followUp.nextCheck)
    (onward : Reaches setup moment waiting last) :
    followUp ∈ last.books.followUps.entries.values ∧
      waiting.countP (Deed.looksAt followUp.key) = 0 := by
  induction onward generalizing others with
  | nil => exact ⟨mem, rfl⟩
  | @snoc middle last earlier deed before step ih =>
    rw [List.append_assoc] at whole
    obtain ⟨kept, unlooked⟩ := ih whole fun other mem => spares other (List.mem_append_left _ mem)
    -- what is tracked is not awaited, so the deed is no look at it
    have balance := balance_le started once told (whole.trans (List.append_assoc ..).symm)
      (reached.trans before) followUp.key
    have tracked := FollowUps.count_pos_iff.2 ⟨followUp, kept, rfl⟩
    have quiet : deed.looksAt followUp.key = false := by
      by_contra looks
      have awaited := step.awaited_pos (by simpa using looks)
      omega
    refine ⟨step.keeps kept (spares deed (by simp)) inTime quiet, ?_⟩
    rw [List.countP_append, unlooked, List.countP_singleton, quiet, if_neg Bool.false_ne_true]

end

/-! ## The head that is far enough -/

def Stage.subjects : Stage → List Subject
  | .looking _ _ subjects => subjects
  | .resting | .reading _ => []

theorem Step.resting_of_starts (step : Step setup moment deed last) (starts : deed.starts = true) :
    moment.stage = .resting := by
  cases step with
  | refuse _ | enter | reset => rfl
  | _ => cases starts

theorem Reaches.looks_at_all {subject : Subject} (reaches : Reaches setup moment history last)
    (uncancelled : ∀ deed ∈ history, Uncancelled (deed.exchanges setup))
    (mem : subject ∈ moment.stage.subjects) :
    (∃ head look, Deed.looked head look ∈ history ∧ look.toSubject = subject) ∨
      subject ∈ last.stage.subjects := by
  induction reaches with
  | nil => exact .inr mem
  | @snoc _ _ earlier deed _ step ih =>
    rcases ih fun other mem => uncancelled other (List.mem_append_left _ mem) with
      ⟨head, look, found, same⟩ | waits
    · exact .inl ⟨head, look, List.mem_append_left _ found, same⟩
    · cases step with
      | @look _ round head rest look =>
        have going := Look.fate_ne_interrupted (uncancelled (.looked head look) (by simp))
        rcases List.mem_cons.1 waits with rfl | waits
        · exact .inl ⟨head, look, by simp, rfl⟩
        · rw [Look.result_eq_ok going]; exact .inr waits
      | _ => cases waits

theorem Step.enter_subject {later : BlockRef} (step : Step setup moment (.entered later) last)
    (mem : followUp ∈ moment.books.followUps.entries.values)
    (check : followUp.nextCheck ≤ later.number) (inTime : later.number ≤ followUp.deadline) :
    FollowUp.subject followUp ∈ last.stage.subjects := by
  cases step
  exact List.mem_map.2 ⟨followUp, FollowUps.mem_due.2 ⟨mem, check, inTime⟩, rfl⟩

theorem Step.enter_expired {later : BlockRef} (step : Step setup moment (.entered later) last)
    (mem : followUp ∈ moment.books.followUps.entries.values)
    (late : followUp.deadline < later.number) :
    last.stage.awaited followUp.key + last.books.followUps.count followUp.key = 0 := by
  -- a commitment has one follow-up, so none that is alive has the same key
  have none {other : FollowUp} (found : other ∈ moment.books.followUps.entries.values)
      (alive : later.number ≤ other.deadline) : other.key ≠ followUp.key := fun same => by
    rw [FollowUps.eq_of_mem_values found mem same] at alive
    exact UInt64.not_le.2 late alive
  cases step with
  | @enter books =>
    have unawaited : ((books.due later.number).1.map FollowUp.subject).countP
        (fun subject => subject.key == followUp.key) = 0 := by
      rw [List.countP_eq_zero]
      intro subject found
      obtain ⟨other, handed, rfl⟩ := List.mem_map.1 found
      obtain ⟨kept, _, alive⟩ := FollowUps.mem_due.1 handed
      simpa [FollowUp.key_subject] using none kept alive
    have untracked : (books.due later.number).2.followUps.count followUp.key = 0 := by
      by_contra tracked
      obtain ⟨other, found, same⟩ := FollowUps.count_pos_iff.1 (Nat.pos_of_ne_zero tracked)
      obtain ⟨found, _, alive⟩ := FollowUps.mem_rest.1 found
      exact none found alive same
    exact Nat.add_eq_zero_iff.2 ⟨unawaited, untracked⟩

theorem Step.reset_forgets {later : BlockRef} (step : Step setup moment (.reset later) last)
    (key : Table.Key) : last.stage.awaited key + last.books.followUps.count key = 0 := by
  cases step
  rfl

/-- The deeds end the turn that they belong to. -/
def RestOfTurn (own others : List Deed) : Prop :=
  (∀ deed ∈ own, deed.starts = false) ∧ ∀ first ∈ others.head?, first.starts = true

theorem RestOfTurn.subjects {own : List Deed} (ends : RestOfTurn own others)
    (onward : Reaches setup moment others ⟨.resting, after⟩) : moment.stage.subjects = [] := by
  cases others with
  | nil => rw [← reaches_nil.1 onward]; rfl
  | cons first rest =>
    obtain ⟨_, step, _⟩ := onward.uncons
    rw [step.resting_of_starts (ends.2 first rfl)]
    rfl

/-! ## What becomes of the commitment -/

/-- Nothing is known of a commitment at a moment, and nothing was asked about its input in
the deeds that led there. -/
def Gone (setup : Setup) (key : Table.Key) (deeds : List Deed) (moment : Moment) : Prop :=
  moment.books.followUps.count key = 0 ∧
    ∀ exchange ∈ deeds.flatMap (Deed.exchanges setup), asks key exchange = false

/-- What becomes of a commitment that was looked at without a delivery. `history` leads from
`start` up to and with the look, and `rest` follows. -/
structure Persists (setup : Setup) (start : Moment) (head : BlockNumber) (look : Look)
    (history rest : List Deed) : Prop where
  /-- It is kept up to the next head at which its check is due. -/
  kept : 0 < setup.retryInterval → head.later setup.retryInterval ≤ look.deadline setup →
    ∀ waiting others moment, rest = waiting ++ others →
    (∀ deed ∈ waiting, deed.Spares (head.later setup.retryInterval)) →
    Reaches setup start (history ++ waiting) moment →
    look.entry setup head ∈ moment.books.followUps.entries.values ∧
      ∀ exchange ∈ waiting.flatMap (Deed.exchanges setup), asks look.key exchange = false
  /-- A head in time leads to one more look, at the block it was posted in. -/
  again : 0 < setup.retryInterval → head.later setup.retryInterval ≤ look.deadline setup →
    ∀ waiting later own others, rest = waiting ++ .entered later :: (own ++ others) →
    (∀ deed ∈ waiting, deed.Spares (head.later setup.retryInterval)) → RestOfTurn own others →
    head.later setup.retryInterval ≤ later.number → later.number ≤ look.deadline setup →
    (own.flatMap (Deed.exchanges setup)).countP (asks look.key) = 1 ∧
      ∃ answer, ⟨.input look.commitment look.block, answer⟩ ∈
        own.flatMap (Deed.exchanges setup)
  /-- A head past the deadline ends it. -/
  expired : 0 < setup.retryInterval → head.later setup.retryInterval ≤ look.deadline setup →
    ∀ waiting later more others moment, rest = waiting ++ .entered later :: (more ++ others) →
    (∀ deed ∈ waiting, deed.Spares (head.later setup.retryInterval)) →
    look.deadline setup < later.number →
    Reaches setup start (history ++ waiting ++ .entered later :: more) moment →
    Gone setup look.key more moment
  /-- So does a reorg. -/
  reset : ∀ waiting later more others moment, rest = waiting ++ .reset later :: (more ++ others) →
    Reaches setup start (history ++ waiting ++ .reset later :: more) moment →
    Gone setup look.key more moment
  /-- A check that would come too late never comes. -/
  never : setup.retryInterval = 0 ∨ look.deadline setup < head.later setup.retryInterval →
    ∀ more others moment, rest = more ++ others → Reaches setup start (history ++ more) moment →
    Gone setup look.key more moment

section
variable (started : Coordinator.start setup = .ok books) (once : MeetsOnce setup turns)
  (told : Told setup books turns after parts)
include started once told

theorem gone_of_nowhere {more : List Deed} (whole : parts.flatten = history ++ (more ++ others))
    (looked : 0 < history.countP (Deed.looksAt key))
    (nowhere : moment.stage.awaited key + moment.books.followUps.count key = 0)
    (onward : Reaches setup moment more last) : Gone setup key more last := by
  obtain ⟨untracked, none⟩ := gone_for_good started once told whole looked nowhere onward
  exact ⟨untracked, asks_eq_false none⟩

omit once told in
theorem entry_mem_of_reaches {head : BlockRef}
    (reached : Reaches setup ⟨.resting, books⟩ (history ++ [.looked head look]) moment)
    (undelivered : look.fate setup = .undelivered) (enabled : 0 < setup.retryInterval)
    (early : head.number.later setup.retryInterval ≤ look.deadline setup) :
    look.entry setup head.number ∈ moment.books.followUps.entries.values := by
  obtain ⟨middle, before, step⟩ := reaches_append_singleton.1 reached
  have interval := before.interval.trans (interval_start started)
  cases step
  exact Look.entry_mem interval undelivered enabled early

theorem nowhere_of_reaches {head : BlockRef}
    (whole : parts.flatten = (history ++ [.looked head look]) ++ rest)
    (reached : Reaches setup ⟨.resting, books⟩ (history ++ [.looked head look]) moment)
    (undelivered : look.fate setup = .undelivered)
    (off : setup.retryInterval = 0 ∨
      look.deadline setup < head.number.later setup.retryInterval) :
    moment.stage.awaited look.key + moment.books.followUps.count look.key = 0 := by
  obtain ⟨middle, before, step⟩ := reaches_append_singleton.1 reached
  have looks : Deed.looksAt look.key (.looked head look) = true := by simp [Deed.looksAt]
  have interval := before.interval.trans (interval_start started)
  have balance := balance_le started once told (whole.trans (List.append_assoc ..)) before look.key
  -- the look takes the last awaited copy and, being too late, tracks nothing
  have awaited := step.awaited_pos looks
  have fewer := step.awaited_le rfl look.key
  have same : moment.books = middle.books := by
    cases step
    exact Look.enter_eq_self interval undelivered off
  rw [looks, if_pos rfl] at fewer
  have met : (Deed.looked head look).met.count look.key = 0 := rfl
  rw [same]
  omega

theorem entry_waits {head : BlockRef}
    (whole : parts.flatten = history ++ [.looked head look] ++ (waiting ++ others))
    (undelivered : look.fate setup = .undelivered) (enabled : 0 < setup.retryInterval)
    (early : head.number.later setup.retryInterval ≤ look.deadline setup)
    (spares : ∀ deed ∈ waiting, deed.Spares (head.number.later setup.retryInterval))
    (reached : Reaches setup ⟨.resting, books⟩ (history ++ [.looked head look] ++ waiting) moment) :
    look.entry setup head.number ∈ moment.books.followUps.entries.values ∧
      waiting.countP (Deed.looksAt look.key) = 0 := by
  obtain ⟨middle, first, onward⟩ := reached.split
  have mem := entry_mem_of_reaches started first undelivered enabled early
  exact keeps_waiting started once told whole first mem early spares onward

theorem due_looked_at {later : BlockRef} {own : List Deed}
    (uncancelled : Uncancelled (turns.flatMap Turn.trace))
    (whole : parts.flatten = history ++ .entered later :: (own ++ others))
    (kept : ∀ moment, Reaches setup ⟨.resting, books⟩ history moment →
      followUp ∈ moment.books.followUps.entries.values)
    (ends : RestOfTurn own others) (check : followUp.nextCheck ≤ later.number)
    (inTime : later.number ≤ followUp.deadline) :
    (own.flatMap (Deed.exchanges setup)).countP (asks followUp.key) = 1 ∧
      ∃ answer, ⟨.input followUp.commitment followUp.block, answer⟩ ∈
        own.flatMap (Deed.exchanges setup) := by
  have reaches := told.reaches
  rw [whole] at reaches
  obtain ⟨moment, reached, onward⟩ := reaches.split
  obtain ⟨entered, step, onward⟩ := onward.uncons
  obtain ⟨ended, inTurn, onward⟩ := onward.split
  have ownUncancelled : ∀ deed ∈ own, Uncancelled (deed.exchanges setup) := by
    intro deed found job offered
    have inside : deed ∈ parts.flatten := by rw [whole]; simp [found]
    rw [← told_exchanges told.tells] at uncancelled
    exact uncancelled job ((exchanges_inside inside).subset offered)
  -- the entry is handed out at the head, and everything handed out is looked at
  have handed := step.enter_subject (kept moment reached) check inTime
  rcases inTurn.looks_at_all ownUncancelled handed with ⟨number, again, found, same⟩ | waits
  · have asked : ⟨.input followUp.commitment followUp.block, again.input⟩ ∈
        own.flatMap (Deed.exchanges setup) := by
      refine List.mem_flatMap.2 ⟨_, found, ?_⟩
      rw [show followUp.commitment = again.commitment by rw [same]; rfl,
        show followUp.block = again.block by rw [same]; rfl]
      exact List.mem_cons_self
    have least : 0 < (own.flatMap (Deed.exchanges setup)).countP (asks followUp.key) :=
      List.countP_pos_iff.2 ⟨_, asked, by simp [asks, FollowUp.key]⟩
    have most := looks_le_one started once told whole ends.1 followUp.key
    rw [← @countP_flatMap_asks setup] at most
    exact ⟨by omega, _, asked⟩
  · rw [ends.subjects onward] at waits
    cases waits

theorem persists {head : BlockRef} (uncancelled : Uncancelled (turns.flatMap Turn.trace))
    (whole : parts.flatten = (history ++ [.looked head look]) ++ rest)
    (undelivered : look.fate setup = .undelivered) :
    Persists setup ⟨.resting, books⟩ head.number look (history ++ [.looked head look]) rest := by
  have looked (more : List Deed) :
      0 < (history ++ [Deed.looked head look] ++ more).countP (Deed.looksAt look.key) := by
    have looks : Deed.looksAt look.key (.looked head look) = true := by simp [Deed.looksAt]
    rw [List.countP_append, List.countP_append, List.countP_singleton, looks, if_pos rfl]
    omega
  constructor
  case kept =>
    rintro enabled early waiting others moment rfl spares reached
    obtain ⟨kept, none⟩ :=
      entry_waits started once told whole undelivered enabled early spares reached
    exact ⟨kept, asks_eq_false none⟩
  case again =>
    rintro enabled early waiting later own others rfl spares ends check inTime
    have split : parts.flatten = (history ++ [.looked head look] ++ waiting) ++
        .entered later :: (own ++ others) := by rw [whole]; simp
    have kept (moment : Moment) (reached : Reaches setup ⟨.resting, books⟩
        (history ++ [.looked head look] ++ waiting) moment) :=
      (entry_waits started once told whole undelivered enabled early spares reached).1
    exact due_looked_at started once told uncancelled split kept ends check inTime
  case expired =>
    rintro enabled early waiting later more others moment rfl spares late reached
    obtain ⟨next, waited, onward⟩ := reached.split
    obtain ⟨entered, step, onward⟩ := onward.uncons
    obtain ⟨kept, _⟩ :=
      entry_waits started once told whole undelivered enabled early spares waited
    have split : parts.flatten =
        (history ++ [.looked head look] ++ (waiting ++ [.entered later])) ++ (more ++ others) := by
      rw [whole]; simp
    exact gone_of_nowhere started once told split (looked _) (step.enter_expired kept late) onward
  case reset =>
    rintro waiting later more others moment rfl reached
    obtain ⟨next, _, onward⟩ := reached.split
    obtain ⟨entered, step, onward⟩ := onward.uncons
    have split : parts.flatten =
        (history ++ [.looked head look] ++ (waiting ++ [.reset later])) ++ (more ++ others) := by
      rw [whole]; simp
    exact gone_of_nowhere started once told split (looked _) (step.reset_forgets look.key) onward
  case never =>
    rintro off more others moment rfl reached
    obtain ⟨middle, first, onward⟩ := reached.split
    have nowhere := nowhere_of_reaches started once told whole first undelivered off
    have seen := looked []
    rw [List.append_nil] at seen
    exact gone_of_nowhere started once told whole seen nowhere onward

end

/-- In every run of a fresh coordinator that meets nothing twice and is not shut down, however
it is told, what was looked at without a delivery waits for its next look, gets it at the
original block if it is not too late, and is forgotten otherwise. -/
theorem undelivered_persists (started : Coordinator.start setup = .ok books)
    (run : Run setup books turns after) (once : MeetsOnce setup turns)
    (uncancelled : Uncancelled (turns.flatMap Turn.trace)) :
    (∃ parts, Told setup books turns after parts) ∧
      ∀ parts, Told setup books turns after parts →
        ∀ (history rest : List Deed) (head : BlockRef) (look : Look),
          parts.flatten = (history ++ [.looked head look]) ++ rest →
          ((∃ failure, look.input = .error (.other failure)) ∨
            (look.job? setup).isSome = true ∧ (look.answer = .dropped ∨ look.answer = .closed)) →
          Persists setup ⟨.resting, books⟩ head.number look (history ++ [.looked head look])
            rest := by
  refine ⟨run.told, fun parts told history rest head look whole undelivered => ?_⟩
  exact persists started once told uncancelled whole (Look.fate_eq_undelivered_iff.2 undelivered)

theorem undelivered_persists_sample :
    ∃ parts, Told Sample.challenger (Books.new 4) Sample.run.1 Sample.run.2 parts ∧
      ∃ history rest head look, parts.flatten = (history ++ [.looked head look]) ++ rest ∧
        look.commitment = Sample.commitment 7 ∧ look.input = .error (.other ⟨"timeout", []⟩) ∧
        Persists Sample.challenger ⟨.resting, Books.new 4⟩ head.number look
          (history ++ [.looked head look]) rest := by
  have uncancelled : Uncancelled (Sample.run.1.flatMap Turn.trace) := by
    refine uncancelled_performAll _ fun task mem => ?_
    simp only [Sample.tasks, List.mem_cons, List.not_mem_nil, or_false] at mem
    rcases mem with rfl | rfl <;> simp [Sample.respond]
  obtain ⟨⟨parts, told⟩, persists⟩ :=
    undelivered_persists rfl (run_performAll _ _ _) Sample.meetsOnce uncancelled
  have asked : ⟨.input (Sample.commitment 7) (Sample.block 100), .error (.other ⟨"timeout", []⟩)⟩ ∈
      parts.flatten.flatMap (Deed.exchanges Sample.challenger) := by
    rw [told_exchanges told.tells]
    exact List.mem_cons_of_mem _ (List.mem_cons_of_mem _ List.mem_cons_self)
  obtain ⟨history, head, look, rest, whole, same, _, failed⟩ := look_of_asked asked
  exact ⟨parts, told, history, rest, head, look, whole, same, failed,
    persists parts told history rest head look whole (.inl ⟨_, failed⟩)⟩

end ChallengeGame.Coordinator
