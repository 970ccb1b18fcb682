import ChallengeGame.Proofs.Coordinator.Timeline

/-!
# The windows of a commitment

A commitment is resolved up to the end of both its windows. It is challenged up to the end of
its challenge window, and beyond that only if something kept it open: its input could not be
fetched when its block was handled, or a resolution of it was not taken. The deadline that a
commitment is tracked with says why it is tracked, and not what it will be tracked for, so the
invariant of a run is the reason for each deadline in the books.
-/

namespace ChallengeGame.Coordinator

variable {setup : Setup} {timeline more : List Dated} {head : BlockRef} {block : BlockNumber}
  {commitment : Commitment} {deadline : BlockNumber} {look : Look} {moment last : Moment}
  {history : List Deed} {deed : Deed} {job : Job}

/-! ## Deadlines and their reasons -/

theorem le_challengeDeadline (setup : Setup) (block : BlockNumber) :
    block ≤ setup.challengeDeadline block :=
  BlockNumber.le_later _ _

theorem challengeDeadline_le (setup : Setup) (block : BlockNumber) :
    setup.challengeDeadline block ≤ setup.resolveDeadline block :=
  BlockNumber.le_later _ _

/-- What keeps a commitment open beyond its challenge window. -/
inductive KeepsOpen (block : BlockNumber) (commitment : Commitment) : Dated → Prop where
  /-- Its input could not be fetched when its block was handled. -/
  | unfetched {head : BlockRef} {failure : Failure} :
      head.number = block →
      KeepsOpen block commitment (head, ⟨.input commitment head, .error (.other failure)⟩)
  /-- A resolution of it was not taken. -/
  | unresolved {head : BlockRef} {input : Bytes} {answer : Offer} :
      answer = .dropped ∨ answer = .closed →
      KeepsOpen block commitment
        (head, ⟨.offer (.resolve ⟨Posting.of block commitment, input⟩), answer⟩)

/-- Something since the last reorg keeps the commitment open. -/
def KeptOpen (timeline : List Dated) (block : BlockNumber) (commitment : Commitment) : Prop :=
  ∃ dated, Recent Dated.isReset timeline dated ∧ KeepsOpen block commitment dated

def Founded (setup : Setup) (timeline : List Dated) (block : BlockNumber)
    (commitment : Commitment) (deadline : BlockNumber) : Prop :=
  deadline = setup.challengeDeadline block ∨
    deadline = setup.resolveDeadline block ∧ KeptOpen timeline block commitment

theorem Founded.append (founded : Founded setup timeline block commitment deadline)
    (quiet : ∀ dated ∈ more, dated.isReset = false) :
    Founded setup (timeline ++ more) block commitment deadline := by
  obtain rfl | ⟨rfl, dated, recent, keeps⟩ := founded
  · exact .inl rfl
  · exact .inr ⟨rfl, dated, recent.append quiet, keeps⟩

/-! ## Looks in time -/

/-- A subject of the head's own block, or one that is still to be looked at by its deadline. -/
def Subject.InTime (setup : Setup) (timeline : List Dated) (head : BlockRef)
    (subject : Subject) : Prop :=
  match subject.known? with
  | none => subject.block = head
  | some deadline =>
    head.number ≤ deadline ∧
      Founded setup timeline subject.block.number subject.commitment deadline

theorem Subject.InTime.append {subject : Subject} (inTime : subject.InTime setup timeline head)
    (quiet : ∀ dated ∈ more, dated.isReset = false) :
    subject.InTime setup (timeline ++ more) head := by
  unfold Subject.InTime at *
  split at inTime
  · exact inTime
  · exact ⟨inTime.1, inTime.2.append quiet⟩

theorem Subject.InTime.head_le {subject : Subject} (inTime : subject.InTime setup timeline head) :
    head.number ≤ setup.challengeDeadline subject.block.number ∨
      head.number ≤ setup.resolveDeadline subject.block.number ∧
        KeptOpen timeline subject.block.number subject.commitment := by
  unfold Subject.InTime at inTime
  split at inTime
  · obtain rfl := inTime
    exact .inl (le_challengeDeadline setup _)
  · obtain ⟨below, rfl | ⟨rfl, kept⟩⟩ := inTime
    · exact .inl below
    · exact .inr ⟨below, kept⟩

theorem Look.answer_of_undelivered (undelivered : look.fate setup = .undelivered)
    (called : look.decision setup = .act job) :
    look.answer = .dropped ∨ look.answer = .closed := by
  cases answered : look.answer with
  | dropped => exact .inl rfl
  | closed => exact .inr rfl
  | _ => simp [Look.fate, called, answered] at undelivered

theorem Look.mem_timeline_offered (called : look.decision setup = .act job) :
    (head, ⟨.offer job, look.answer⟩) ∈ (Deed.looked head look).timeline setup :=
  mem_timeline.2 ⟨rfl, Look.offer_mem.2 ⟨called, rfl⟩⟩

/-- The deadline that an undelivered commitment is tracked with has its reason in the timeline,
the look included. -/
theorem Look.founded (inTime : look.toSubject.InTime setup timeline head)
    (undelivered : look.fate setup = .undelivered) :
    Founded setup (timeline ++ (Deed.looked head look).timeline setup) look.block.number
      look.commitment (look.deadline setup) := by
  have quiet : ∀ dated ∈ (Deed.looked head look).timeline setup, dated.isReset = false :=
    fun dated mem => look.isReset_exchanges dated.2 (mem_timeline.1 mem).2
  have recent {dated : Dated} (mem : dated ∈ (Deed.looked head look).timeline setup) :
      Recent Dated.isReset (timeline ++ (Deed.looked head look).timeline setup) dated :=
    recent_append.2 (.inl (recent_of_mem mem quiet))
  rcases called : look.decision setup with job | _ | _
  · -- the job was not taken, and what it was decides the deadline
    have answered := Look.answer_of_undelivered undelivered called
    rcases Look.job_eq called with rfl | ⟨input, rfl⟩
    · exact .inl (by simp [Look.deadline, called, Coordinator.deadline])
    · refine .inr ⟨by simp [Look.deadline, called, Coordinator.deadline], ?_⟩
      exact ⟨_, recent (Look.mem_timeline_offered called), .unresolved answered⟩
  · simp [Look.fate, called] at undelivered
  · -- the input could not be fetched: a known deadline stays, a first one is the later one
    obtain ⟨failure, failed⟩ | ⟨wrong, _⟩ := Look.fate_eq_undelivered_iff.1 undelivered
    · rcases known : look.known? with _ | deadline
      · have own : look.block = head := by simpa [Subject.InTime, known] using inTime
        refine .inr ⟨by simp [Look.deadline, called, known], ?_⟩
        refine ⟨(head, ⟨.input look.commitment head, .error (.other failure)⟩), recent ?_, ?_⟩
        · refine mem_timeline.2 ⟨rfl, List.mem_append_left _ ?_⟩
          rw [← own, ← failed]
          exact List.mem_cons_self
        · rw [own]; exact .unfetched rfl
      · have before : Founded setup timeline look.block.number look.commitment deadline := by
          simp only [Subject.InTime, known] at inTime
          exact inTime.2
        simpa [Look.deadline, called, known] using before.append quiet
    · simp [Look.job?, called] at wrong

/-! ## Runs -/

structure InTime (setup : Setup) (timeline : List Dated) (moment : Moment) : Prop where
  tracked : ∀ followUp ∈ moment.books.followUps.entries.values,
    Founded setup timeline followUp.block.number followUp.commitment followUp.deadline
  awaited : ∀ round head subjects, moment.stage = .looking round head subjects →
    ∀ subject ∈ subjects, subject.InTime setup timeline head

theorem Step.inTime (step : Step setup moment deed last) (before : InTime setup timeline moment) :
    InTime setup (timeline ++ deed.timeline setup) last := by
  by_cases reset : deed.isReset = true
  · -- a reorg leaves nothing behind
    cases step with
    | reset =>
      constructor
      · intro followUp mem; cases mem
      · intro round head subjects stage subject mem; cases stage; cases mem
    | _ => cases reset
  · have quiet := step.isReset_timeline (by simpa using reset)
    have tracked : ∀ followUp ∈ moment.books.followUps.entries.values,
        Founded setup (timeline ++ deed.timeline setup) followUp.block.number followUp.commitment
          followUp.deadline := fun followUp mem => (before.tracked followUp mem).append quiet
    cases step with
    | refuse _ | fail _ | leave =>
      exact ⟨tracked, fun _ _ _ stage => by cases stage⟩
    | tend _ _ => exact ⟨tracked, fun _ _ _ stage => by cases stage⟩
    | reset => cases reset rfl
    | @enter books head =>
      refine ⟨fun followUp mem => tracked followUp (FollowUps.mem_rest.1 mem).1, ?_⟩
      intro round head subjects stage subject mem
      cases stage
      obtain ⟨followUp, due, rfl⟩ := List.mem_map.1 mem
      obtain ⟨kept, _, alive⟩ := FollowUps.mem_due.1 due
      exact ⟨alive, tracked followUp kept⟩
    | @read books head entries reading _ =>
      refine ⟨tracked, fun round head subjects stage subject mem => ?_⟩
      cases stage
      obtain ⟨commitment, _, rfl⟩ := List.mem_map.1 mem
      rfl
    | @look books round head rest look =>
      have awaited := before.awaited round head _ rfl
      constructor
      · intro followUp mem
        unfold Look.enter at mem
        split at mem
        · exact tracked followUp mem
        · rename_i undelivered
          rcases FollowUps.eq_or_mem_of_mem_track mem with rfl | mem
          · exact Look.founded (awaited _ List.mem_cons_self) undelivered
          · exact tracked followUp mem
        · exact tracked followUp mem
      · intro round' head' subjects stage subject mem
        cases ended : look.result setup with
        | ok _ =>
          rw [ended] at stage
          cases stage
          exact (awaited subject (List.mem_cons_of_mem _ mem)).append quiet
        | error _ =>
          rw [ended] at stage
          cases stage

theorem Reaches.inTime (reaches : Reaches setup moment history last)
    (before : InTime setup [] moment) :
    InTime setup (history.flatMap (Deed.timeline setup)) last := by
  induction reaches with
  | nil => exact before
  | snoc _ step ih =>
    rw [List.flatMap_append, List.flatMap_singleton]
    exact step.inTime ih

theorem inTime_start {books : Books} (started : Coordinator.start setup = .ok books) :
    InTime setup [] ⟨.resting, books⟩ := by
  obtain ⟨_, rfl⟩ := start_eq_ok_iff.1 started
  constructor
  · intro followUp mem; cases mem
  · intro round head subjects stage; cases stage

theorem look_of_offered {answer : Offer}
    (offered : ⟨.offer job, answer⟩ ∈ deed.exchanges setup)
    (disputed : job = .challenge (Posting.of block commitment) ∨
      ∃ input, job = .resolve ⟨Posting.of block commitment, input⟩) :
    ∃ head look, deed = .looked head look ∧ look.block.number = block ∧
      look.commitment = commitment := by
  have looks : deed.looksAt (Table.Key.of block commitment) = true := by
    refine looksAt_of_offers offered ?_
    rcases disputed with rfl | ⟨input, rfl⟩ <;> simp [offers, disputes]
  cases deed with
  | looked head look =>
    have same : look.key = Table.Key.of block commitment := by simpa [Deed.looksAt] using looks
    obtain ⟨blocks, commitments⟩ := Table.Key.of_injective.1 same
    exact ⟨head, look, rfl, blocks, commitments⟩
  | _ => cases looks

section
variable {books after : Books} {turns : List Turn} {earlier later : List Dated}

theorem offered_in_time (started : Coordinator.start setup = .ok books)
    (run : Run setup books turns after) {answer : Offer}
    (split : turns.flatMap Turn.timeline = earlier ++ (head, ⟨.offer job, answer⟩) :: later)
    (disputed : job = .challenge (Posting.of block commitment) ∨
      ∃ input, job = .resolve ⟨Posting.of block commitment, input⟩) :
    head.number ≤ setup.challengeDeadline block ∨
      head.number ≤ setup.resolveDeadline block ∧ KeptOpen earlier block commitment := by
  obtain ⟨parts, told⟩ := run.told
  rw [← told_timeline told.tells] at split
  obtain ⟨history, deed, rest, own, ending, whole, inside, rfl, _⟩ := flatMap_at split
  have reaches := told.reaches
  rw [whole] at reaches
  obtain ⟨moment, reached, onward⟩ := reaches.split
  obtain ⟨_, step, _⟩ := onward.uncons
  -- the deed of the offer is a look at an awaited commitment
  have mem : (head, ⟨.offer job, answer⟩) ∈ deed.timeline setup := by rw [inside]; simp
  obtain ⟨same, offered⟩ := mem_timeline.1 mem
  obtain ⟨here, look, rfl, rfl, rfl⟩ := look_of_offered offered disputed
  obtain rfl : head = here := same
  have inTime := reached.inTime (inTime_start started)
  have quiet : ∀ dated ∈ own, dated.isReset = false := by
    intro dated found
    have within : dated ∈ (Deed.looked head look).timeline setup := by rw [inside]; simp [found]
    exact look.isReset_exchanges dated.2 (mem_timeline.1 within).2
  cases step with
  | @look _ round _ rest _ =>
    have awaited := inTime.awaited round head _ rfl look.toSubject List.mem_cons_self
    rcases awaited.head_le with below | ⟨below, dated, recent, keeps⟩
    · exact .inl below
    · exact .inr ⟨below, dated, recent.append quiet, keeps⟩

/-- In every run of a fresh coordinator a resolution is taken only up to the end of both
windows of its commitment. So is a challenge, and up to the end of the challenge window if
nothing kept the commitment open since the last reorg. -/
theorem taken_in_window (started : Coordinator.start setup = .ok books)
    (run : Run setup books turns after)
    (split : turns.flatMap Turn.timeline = earlier ++ (head, ⟨.offer job, .queued⟩) :: later) :
    (∀ block commitment input, job = .resolve ⟨Posting.of block commitment, input⟩ →
        head.number ≤ setup.resolveDeadline block) ∧
      ∀ block commitment, job = .challenge (Posting.of block commitment) →
        head.number ≤ setup.resolveDeadline block ∧
          (head.number ≤ setup.challengeDeadline block ∨ KeptOpen earlier block commitment) := by
  constructor
  · rintro block commitment input rfl
    rcases offered_in_time started run split (.inr ⟨input, rfl⟩) with below | ⟨below, _⟩
    · exact UInt64.le_trans below (challengeDeadline_le setup block)
    · exact below
  · rintro block commitment rfl
    rcases offered_in_time started run split (.inl rfl) with below | ⟨below, kept⟩
    · exact ⟨UInt64.le_trans below (challengeDeadline_le setup block), .inl below⟩
    · exact ⟨below, .inr kept⟩

end

/-- The input of a commitment of block 100 cannot be fetched at first, and is missing at head
112, between the ends of its two windows. -/
def Sample.lateTasks : List (BlockRef × Responder) :=
  [(Sample.block 100,
      Sample.respond [Sample.commitment 7] (.error (.other ⟨"timeout", []⟩)) .queued),
    (Sample.block 112, Sample.respond [] (.error .pendingChallenge) .queued)]

def Sample.lateRun : List Turn × Books :=
  performAll Sample.challenger (Books.new 4) Sample.lateTasks

def Sample.lateTimeline : List Dated := Sample.lateRun.1.flatMap Turn.timeline

theorem Sample.lateTimeline_eq :
    Sample.lateTimeline = Sample.lateTimeline.take 5 ++
      (Sample.block 112, ⟨.offer (.challenge (Posting.of 100 (Sample.commitment 7))), .queued⟩) ::
        Sample.lateTimeline.drop 6 := rfl

theorem taken_in_window_late :
    Sample.challenger.challengeDeadline 100 = 110 ∧
      Sample.challenger.resolveDeadline 100 = 120 ∧
      KeptOpen (Sample.lateTimeline.take 5) 100 (Sample.commitment 7) := by
  obtain ⟨_, challenged⟩ := taken_in_window rfl
    (run_performAll Sample.challenger (Books.new 4) Sample.lateTasks) Sample.lateTimeline_eq
  obtain ⟨_, early | kept⟩ := challenged 100 (Sample.commitment 7) rfl
  · exact absurd early (by decide)
  · exact ⟨rfl, rfl, kept⟩

theorem challenged_late :
    ∃ turns after earlier later,
      Coordinator.start Sample.challenger = .ok (Books.new 4) ∧
      Run Sample.challenger (Books.new 4) turns after ∧
      turns.flatMap Turn.timeline =
        earlier ++ (Sample.block 112,
          ⟨.offer (.challenge (Posting.of 100 (Sample.commitment 7))), .queued⟩) :: later ∧
      Sample.challenger.challengeDeadline 100 < (Sample.block 112).number :=
  ⟨_, _, _, _, rfl, run_performAll _ _ Sample.lateTasks, Sample.lateTimeline_eq, by decide⟩

end ChallengeGame.Coordinator
