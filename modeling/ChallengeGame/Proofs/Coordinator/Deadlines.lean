import ChallengeGame.Proofs.Coordinator.Revisits

/-!
# What a deadline comes from

A commitment whose challenge was not taken is tracked to the end of its challenge window, one
whose resolution was not taken to the end of both windows. A failed fetch calls for both windows
too, but a later one leaves the deadline as it is, so that a challenge that was not taken before
it keeps the commitment to the shorter window. `deadline_matches_iff` says that this is the one
case in which a deadline does not go with what the latest look decided.
-/

namespace ChallengeGame.Coordinator

variable {setup : Setup} {books after : Books} {turns : List Turn} {parts : List (List Deed)}
  {history : List Deed} {moment : Moment} {followUp : FollowUp} {earlier list : List Visit}
  {latest : Visit} {block : BlockNumber}

/-- How a follow-up goes with the visits of its commitment. -/
structure Grounded (setup : Setup) (followUp : FollowUp) (earlier : List Visit) (latest : Visit) :
    Prop where
  undelivered : latest.2.fate setup = .undelivered
  block : latest.2.block = followUp.block
  commitment : latest.2.commitment = followUp.commitment
  challenge : ∀ posting, latest.2.decision setup = .act (.challenge posting) →
    followUp.deadline = setup.challengeDeadline followUp.block.number
  resolve : ∀ resolution, latest.2.decision setup = .act (.resolve resolution) →
    followUp.deadline = setup.resolveDeadline followUp.block.number
  /-- A failed fetch keeps what the visits before it left. -/
  retry : latest.2.decision setup = .retry →
    followUp.deadline = carried setup followUp.block.number earlier
  /-- That is the end of both windows unless it is the shorter window of a challenge. -/
  retry_iff : latest.2.decision setup = .retry →
    (followUp.deadline = setup.resolveDeadline followUp.block.number ↔
      ∀ posting, lastJob? setup earlier = some (.challenge posting) →
        setup.challengeDeadline followUp.block.number =
          setup.resolveDeadline followUp.block.number)

theorem carried_eq_resolveDeadline_iff :
    carried setup block list = setup.resolveDeadline block ↔
      ∀ posting, lastJob? setup list = some (.challenge posting) →
        setup.challengeDeadline block = setup.resolveDeadline block := by
  unfold carried
  split
  · rename_i job called
    cases job <;> simp [Coordinator.deadline, called]
  · simp [*]

theorem Chained.grounded (chained : Chained setup earlier latest)
    (undelivered : latest.2.fate setup = .undelivered) :
    Grounded setup (latest.2.entry setup latest.1.number) earlier latest := by
  have deadline : (latest.2.entry setup latest.1.number).deadline =
      carried setup latest.2.block.number (earlier ++ [latest]) := chained.deadline_eq
  have retry (failed : latest.2.decision setup = .retry) :
      (latest.2.entry setup latest.1.number).deadline =
        carried setup latest.2.block.number earlier := by
    rw [deadline]
    simp [carried, lastJob?_append_singleton, Look.job?, failed]
  constructor
  case undelivered => exact undelivered
  case block => rfl
  case commitment => rfl
  case challenge =>
    intro posting called
    rw [deadline]
    simp [carried, lastJob?_append_singleton, Look.job?, called, Coordinator.deadline, Look.entry]
  case resolve =>
    intro resolution called
    rw [deadline]
    simp [carried, lastJob?_append_singleton, Look.job?, called, Coordinator.deadline, Look.entry]
  case retry => exact retry
  case retry_iff =>
    intro failed
    rw [retry failed]
    exact carried_eq_resolveDeadline_iff

/-- In every run of a fresh coordinator that meets nothing twice, however it is told and at each
of its moments, a deadline in the books goes with what the latest look decided, but for a failed
fetch after a challenge that was not taken. -/
theorem deadline_matches_iff (started : Coordinator.start setup = .ok books)
    (run : Run setup books turns after) (once : MeetsOnce setup turns) :
    (∃ parts, Told setup books turns after parts) ∧
      ∀ parts, Told setup books turns after parts →
        ∀ history rest moment, parts.flatten = history ++ rest →
          Reaches setup ⟨.resting, books⟩ history moment →
          ∀ followUp ∈ moment.books.followUps.entries.values, ∃ earlier latest,
            visits followUp.key history = earlier ++ [latest] ∧
              Grounded setup followUp earlier latest := by
  refine ⟨run.told, fun parts told history rest moment whole reached followUp mem => ?_⟩
  have traced := reached.traced started once told whole
  obtain ⟨earlier, latest, visited, _, undelivered, rfl⟩ := traced.tracked followUp mem
  have chained := traced.chained _ earlier latest visited
  exact ⟨earlier, latest, visited, chained.grounded undelivered⟩

/-- A challenge of a commitment of block 100 is not taken, and four blocks later the input cannot
be fetched. -/
def Sample.lapsedTasks : List (BlockRef × Responder) :=
  [(Sample.block 100, Sample.respond [Sample.commitment 7] (.error .pendingChallenge) .closed),
    (Sample.block 104, Sample.respond [] (.error (.other ⟨"timeout", []⟩)) .closed)]

def Sample.lapsedRun : List Turn × Books :=
  performAll Sample.challenger (Books.new 4) Sample.lapsedTasks

def Sample.lapsedFollowUp : FollowUp := ⟨Sample.block 100, Sample.commitment 7, 110, 108⟩

theorem Sample.lapsed_meetsOnce : MeetsOnce Sample.challenger Sample.lapsedRun.1 :=
  meetsOnce_performAll _ (by decide) (by decide)

theorem Sample.lapsed_tracked :
    Sample.lapsedFollowUp ∈ Sample.lapsedRun.2.followUps.entries.values := by decide

theorem deadline_matches_iff_lapsed :
    ∃ parts, Told Sample.challenger (Books.new 4) Sample.lapsedRun.1 Sample.lapsedRun.2 parts ∧
      ∃ earlier latest, visits Sample.lapsedFollowUp.key parts.flatten = earlier ++ [latest] ∧
        Grounded Sample.challenger Sample.lapsedFollowUp earlier latest := by
  obtain ⟨⟨parts, told⟩, matching⟩ := deadline_matches_iff rfl
    (run_performAll Sample.challenger (Books.new 4) Sample.lapsedTasks) Sample.lapsed_meetsOnce
  exact ⟨parts, told, matching parts told parts.flatten [] _ (List.append_nil _).symm told.reaches _
    Sample.lapsed_tracked⟩

theorem deadline_lapsed :
    ∃ turns after parts, Coordinator.start Sample.challenger = .ok (Books.new 4) ∧
      Run Sample.challenger (Books.new 4) turns after ∧ MeetsOnce Sample.challenger turns ∧
      Told Sample.challenger (Books.new 4) turns after parts ∧
      ∃ followUp ∈ after.followUps.entries.values, ∃ earlier latest,
        visits followUp.key parts.flatten = earlier ++ [latest] ∧
          latest.2.decision Sample.challenger = .retry ∧ followUp.deadline = 110 ∧
          Sample.challenger.resolveDeadline followUp.block.number = 120 := by
  have run : Run Sample.challenger (Books.new 4) Sample.lapsedRun.1 Sample.lapsedRun.2 :=
    run_performAll _ _ Sample.lapsedTasks
  obtain ⟨parts, told⟩ := run.told
  -- the exchanges of the run say what was answered at its two visits
  have inquired : inquiries Sample.lapsedFollowUp.key Sample.lapsedRun.1 =
      [(Sample.block 100,
          ⟨.input (Sample.commitment 7) (Sample.block 100), .error .pendingChallenge⟩),
        (Sample.block 104,
          ⟨.input (Sample.commitment 7) (Sample.block 100), .error (.other ⟨"timeout", []⟩)⟩)] :=
    rfl
  rw [inquiries_eq told.tells] at inquired
  obtain ⟨first, others, visited, _, asked⟩ := List.map_eq_cons_iff.1 inquired
  obtain ⟨latest, _, rfl, same, none⟩ := List.map_eq_cons_iff.1 asked
  obtain rfl := List.map_eq_nil_iff.1 none
  have failed : latest.2.input = .error (.other ⟨"timeout", []⟩) := by
    obtain ⟨head, ⟨block, commitment, known?⟩, input, status, answer⟩ := latest
    cases same
    rfl
  refine ⟨_, _, parts, rfl, run, Sample.lapsed_meetsOnce, told, _, Sample.lapsed_tracked, [first],
    latest, visited, ?_, rfl, rfl⟩
  simp [Look.decision, failed]

end ChallengeGame.Coordinator
