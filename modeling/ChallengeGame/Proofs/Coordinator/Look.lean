import ChallengeGame.Proofs.Coordinator.Course

/-!
# Looks at a commitment

A look is everything that is asked about one commitment at one head, with the answers.
`handle_runs` says that the coordinator's work on a commitment is exactly such a look: the
exchanges, the result and the change of the books all follow from the answers.
-/

namespace ChallengeGame.Coordinator

structure Subject where
  /-- the block the commitment was posted in -/
  block : BlockRef
  commitment : Commitment
  /-- the deadline it was tracked with, if it was -/
  known? : Option BlockNumber

def Subject.posting (subject : Subject) : Posting :=
  Posting.of subject.block.number subject.commitment

/-- What was answered at a look at a commitment. An answer that was not asked for has no
meaning. -/
structure Look extends Subject where
  input : Except ProviderError Bytes
  status : ChallengeStatus
  answer : Offer

inductive Fate where
  /-- nothing has to be done about the commitment -/
  | settled
  | delivered (job : Job)
  /-- the input could not be fetched, or the job was not taken -/
  | undelivered
  /-- a shutdown came before the job was offered -/
  | interrupted
deriving DecidableEq

namespace Look

/-- What the answers call for. A missing input that nobody challenged calls for a challenge,
an input of a commitment under challenge for a resolution. -/
def decision (setup : Setup) (look : Look) : Decision :=
  match look.input with
  | .ok input =>
    if setup.takes .resolve ∧ look.status = .active then .act (.resolve ⟨look.posting, input⟩)
    else .nothing
  | .error .pendingChallenge =>
    if setup.takes .challenge then .act (.challenge look.posting) else .nothing
  | .error (.other _) => .retry
  | .error _ => .nothing

def job? (setup : Setup) (look : Look) : Option Job :=
  match look.decision setup with
  | .act job => some job
  | _ => none

def fate (setup : Setup) (look : Look) : Fate :=
  match look.decision setup, look.answer with
  | .nothing, _ => .settled
  | .retry, _ => .undelivered
  | .act job, .queued => .delivered job
  | .act _, .cancelled => .interrupted
  | .act _, _ => .undelivered

/-- The last head at which the commitment is looked at again, if it is undelivered. -/
def deadline (setup : Setup) (look : Look) : BlockNumber :=
  match look.decision setup with
  | .act job => Coordinator.deadline setup look.block.number job
  | _ => look.known?.getD (setup.resolveDeadline look.block.number)

/-- A look leads to no delivery if the input could not be fetched for reasons of no meaning, or
if its job was not taken. -/
theorem fate_eq_undelivered_iff {setup : Setup} {look : Look} :
    look.fate setup = .undelivered ↔
      (∃ failure, look.input = .error (.other failure)) ∨
        (look.job? setup).isSome = true ∧ (look.answer = .dropped ∨ look.answer = .closed) := by
  have retry : look.decision setup = .retry ↔ ∃ failure, look.input = .error (.other failure) := by
    unfold decision
    split
    · split <;> simp_all
    · split <;> simp_all
    · simp_all
    · rename_i other given
      simp only [reduceCtorEq, given, Except.error.injEq, false_iff, not_exists]
      exact other
  rw [← retry]
  rcases called : look.decision setup with job | _ | _
  · cases answered : look.answer <;> simp [fate, job?, called, answered]
  · simp [fate, job?, called]
  · simp [fate, called]

def evaluation (setup : Setup) (look : Look) : List Exchange :=
  ⟨.input look.commitment look.block, look.input⟩ ::
    match look.input with
    | .ok _ =>
      if setup.takes .resolve then [⟨.status look.commitment look.block.number, look.status⟩]
      else []
    | .error _ => []

def offering (setup : Setup) (look : Look) : List Exchange :=
  match look.decision setup with
  | .act job =>
    ⟨.offer job, look.answer⟩ ::
      if look.answer = .queued then [⟨.acted look.block.number, ()⟩] else []
  | _ => []

def exchanges (setup : Setup) (look : Look) : List Exchange :=
  look.evaluation setup ++ look.offering setup

def result (setup : Setup) (look : Look) : Except Error Unit :=
  match look.fate setup with
  | .interrupted => .error .cancelled
  | _ => .ok ()

def bonds (setup : Setup) (look : Look) (job : Job) (ledger : BondLedger) : BondLedger :=
  match job with
  | .challenge _ =>
    if setup.takes .unlock then
      ledger.insert look.block.number look.commitment (setup.resolveDeadline look.block.number)
    else ledger
  | _ => ledger

def enter (setup : Setup) (head : BlockNumber) (look : Look) (books : Books) : Books :=
  match look.fate setup with
  | .delivered job => { books with bonds := look.bonds setup job books.bonds }
  | .undelivered =>
    { books with
      followUps := books.followUps.track head look.block look.commitment (look.deadline setup) }
  | _ => books

end Look

variable {setup : Setup} {head : BlockNumber} {block : BlockRef} {commitment : Commitment}
  {known? : Option BlockNumber} {before after : Books} {trace : List Exchange}

open Course (Runs runs_bind runs_pure runs_throw runs_modify runs_query_bind)

theorem evaluate_runs (look : Look) {result : Except Error Decision} :
    Runs (evaluate setup look.block look.commitment) before trace result after ↔
      ∃ input status,
        let look := { look with input, status }
        trace = look.evaluation setup ∧ result = .ok (look.decision setup) ∧ after = before := by
  constructor
  · intro run
    obtain ⟨input, rest, rfl, tail⟩ := (runs_query_bind (.input look.commitment look.block)).1 run
    cases input with
    | error cause =>
      -- no status was asked for, so any will do
      obtain ⟨rfl, rfl, rfl⟩ := runs_pure.1 tail
      exact ⟨.error cause, .active, rfl, by cases cause <;> rfl, rfl⟩
    | ok input =>
      simp only at tail
      split at tail
      · rename_i takes
        obtain ⟨status, rest, rfl, last⟩ :=
          (runs_query_bind (.status look.commitment look.block.number)).1 tail
        refine ⟨.ok input, status, ?_⟩
        split at last <;> obtain ⟨rfl, rfl, rfl⟩ := runs_pure.1 last <;>
          simp_all [Look.evaluation, Look.decision, Subject.posting]
      · rename_i takes
        obtain ⟨rfl, rfl, rfl⟩ := runs_pure.1 tail
        exact ⟨.ok input, .active, by simp [Look.evaluation, Look.decision, takes]⟩
  · rintro ⟨input, status, rfl, rfl, rfl⟩
    refine (runs_query_bind (.input look.commitment look.block)).2 ⟨input, _, rfl, ?_⟩
    cases input with
    | error cause => exact runs_pure.2 ⟨rfl, by cases cause <;> rfl, rfl⟩
    | ok input =>
      simp only
      split
      · refine (runs_query_bind (.status look.commitment look.block.number)).2 ⟨status, [], rfl, ?_⟩
        split <;> exact runs_pure.2 ⟨rfl, by simp_all [Look.decision, Subject.posting], rfl⟩
      · exact runs_pure.2 ⟨rfl, by simp_all [Look.decision], rfl⟩

theorem track_runs {deadline : BlockNumber} {result : Except Error Unit} :
    Runs (track head block commitment deadline) before trace result after ↔
      trace = [] ∧ result = .ok () ∧
        after =
          { before with followUps := before.followUps.track head block commitment deadline } :=
  runs_modify

theorem lockBond_runs {look : Look} {job : Job} {result : Except Error Unit} :
    Runs (lockBond setup look.block look.commitment job) before trace result after ↔
      trace = [] ∧ result = .ok () ∧
        after = { before with bonds := look.bonds setup job before.bonds } := by
  cases job with
  | challenge posting =>
    simp only [lockBond, Look.bonds]
    split
    · exact runs_modify
    · exact runs_pure
  | _ => exact runs_pure

theorem act_runs {look : Look} {job : Job} {result : Except Error Unit}
    (called : look.decision setup = .act job) :
    Runs (act setup head look.block look.commitment job) before trace result after ↔
      ∃ answer,
        let look := { look with answer }
        trace = look.offering setup ∧ result = look.result setup ∧
          after = look.enter setup head before := by
  -- the answer to the offer has no part in the decision
  have same (answer : Offer) : { look with answer }.decision setup = .act job := called
  constructor
  · intro run
    obtain ⟨answer, rest, rfl, tail⟩ := (runs_query_bind (.offer job)).1 run
    refine ⟨answer, ?_⟩
    cases answer with
    | queued =>
      obtain ⟨_, rest, rfl, last⟩ := (runs_query_bind (.acted look.block.number)).1 tail
      obtain ⟨rfl, rfl, rfl⟩ := lockBond_runs.1 last
      simp [Look.offering, Look.result, Look.enter, Look.fate, Look.bonds, same]
    | cancelled =>
      obtain ⟨rfl, rfl, rfl⟩ := runs_throw.1 tail
      simp [Look.offering, Look.result, Look.enter, Look.fate, same]
    | _ =>
      obtain ⟨rfl, rfl, rfl⟩ := track_runs.1 tail
      simp [Look.offering, Look.result, Look.enter, Look.fate, Look.deadline, same]
  · rintro ⟨answer, rfl, rfl, rfl⟩
    simp only [Look.offering, same]
    refine (runs_query_bind (.offer job)).2 ⟨answer, _, rfl, ?_⟩
    cases answer with
    | queued =>
      refine (runs_query_bind (.acted look.block.number)).2 ⟨(), [], rfl, ?_⟩
      exact lockBond_runs.2 (by simp [Look.result, Look.enter, Look.fate, Look.bonds, same])
    | cancelled => exact runs_throw.2 (by simp [Look.result, Look.enter, Look.fate, same])
    | _ => exact track_runs.2 (by simp [Look.result, Look.enter, Look.fate, Look.deadline, same])

theorem conclude_runs (look : Look) {result : Except Error Unit} :
    Runs (match look.decision setup with
      | .nothing => pure ()
      | .retry =>
        track head look.block look.commitment
          (look.known?.getD (setup.resolveDeadline look.block.number))
      | .act job => act setup head look.block look.commitment job) before trace result after ↔
      ∃ answer,
        let look := { look with answer }
        trace = look.offering setup ∧ result = look.result setup ∧
          after = look.enter setup head before := by
  have same (answer : Offer) : { look with answer }.decision setup = look.decision setup := rfl
  have : Nonempty Offer := ⟨.closed⟩
  cases called : look.decision setup with
  | nothing =>
    simp [runs_pure, Look.offering, Look.result, Look.enter, Look.fate, same, called]
  | retry =>
    simp [track_runs, Look.offering, Look.result, Look.enter, Look.fate, Look.deadline, same,
      called]
  | act job => exact act_runs called

/-- The work on one commitment is one look at it. -/
theorem handle_runs {subject : Subject} {result : Except Error Unit} :
    Runs (handle setup head subject.block subject.commitment subject.known?)
        before trace result after ↔
      ∃ look : Look, look.toSubject = subject ∧ trace = look.exchanges setup ∧
        result = look.result setup ∧ after = look.enter setup head before := by
  constructor
  · intro run
    -- the answers are filled in one after the other, as they are asked for
    let start : Look := ⟨subject, .ok [], .active, .closed⟩
    rcases runs_bind.1 run with ⟨_, _, _, _, rfl, evaluated, tail⟩ | ⟨_, _, evaluated⟩
    · obtain ⟨input, status, rfl, ends, rfl⟩ := (evaluate_runs start).1 evaluated
      cases ends
      obtain ⟨answer, rfl, rfl, rfl⟩ := (conclude_runs { start with input, status }).1 tail
      exact ⟨⟨subject, input, status, answer⟩, rfl, rfl, rfl, rfl⟩
    · obtain ⟨_, _, _, wrong, _⟩ := (evaluate_runs start).1 evaluated
      cases wrong
  · rintro ⟨look, rfl, rfl, rfl, rfl⟩
    refine runs_bind.2 (.inl ⟨look.decision setup, before, look.evaluation setup,
      look.offering setup, rfl, ?_, ?_⟩)
    · exact (evaluate_runs look).2 ⟨look.input, look.status, rfl, rfl, rfl⟩
    · exact (conclude_runs look).2 ⟨look.answer, rfl, rfl, rfl⟩

end ChallengeGame.Coordinator
