import ChallengeGame.Proofs.Coordinator.Rounds
import Mathlib.Data.List.Forall2

/-!
# Histories of a coordinator

A run is a list of turns, one for each head, in which the work on a head is done to its
end. A history tells the same in single deeds: a deed starts the work on a head, is one
look at a commitment, or ends a part of the work. Between two deeds the stage of the work
and the books are known, so that it can be said what holds at every moment of a run and
not only between two heads. `Run.told` says that every run can be told this way with the
same exchanges.
-/

namespace ChallengeGame.Coordinator

/-! ## Runs -/

/-- The complete work on one head. -/
structure Turn where
  head : BlockRef
  trace : List Exchange
  result : Except Error Unit

/-- Turns one after the other, each on the books that the one before left behind. -/
inductive Run (setup : Setup) : Books → List Turn → Books → Prop where
  | nil {books : Books} : Run setup books [] books
  | cons {before between after : Books} {turn : Turn} {rest : List Turn} :
      Program.Yields (process setup before turn.head) turn.trace (turn.result, between) →
      Run setup between rest after → Run setup before (turn :: rest) after

/-- A table of answers to everything that can be asked. -/
abbrev Responder := (query : Query) → query.Answer

/-- The turn of a head against a table of answers, with the books it leaves behind. -/
def perform (setup : Setup) (books : Books) (head : BlockRef) (respond : Responder) :
    Turn × Books :=
  let run := (process setup books head).record respond
  (⟨head, run.1, run.2.1⟩, run.2.2)

def performAll (setup : Setup) : Books → List (BlockRef × Responder) → List Turn × Books
  | books, [] => ([], books)
  | books, (head, respond) :: rest =>
    let first := perform setup books head respond
    let later := performAll setup first.2 rest
    (first.1 :: later.1, later.2)

theorem yields_perform (setup : Setup) (books : Books) (head : BlockRef) (respond : Responder) :
    Program.Yields (process setup books head) (perform setup books head respond).1.trace
      ((perform setup books head respond).1.result, (perform setup books head respond).2) :=
  Program.yields_record respond (process setup books head)

theorem perform_answers {setup : Setup} {books : Books} {head : BlockRef} {respond : Responder} :
    ∀ exchange ∈ (perform setup books head respond).1.trace,
      exchange.answer = respond exchange.query :=
  Program.record_answers respond (process setup books head)

theorem performAll_answers {setup : Setup} {books : Books} {tasks : List (BlockRef × Responder)} :
    ∀ exchange ∈ (performAll setup books tasks).1.flatMap Turn.trace,
      ∃ task ∈ tasks, exchange.answer = task.2 exchange.query := by
  induction tasks generalizing books with
  | nil => simp [performAll]
  | cons task rest ih =>
    intro exchange mem
    rcases List.mem_append.1 mem with mem | mem
    · exact ⟨task, List.mem_cons_self, perform_answers _ mem⟩
    · obtain ⟨other, found, answered⟩ := ih _ mem
      exact ⟨other, List.mem_cons_of_mem _ found, answered⟩

theorem heads_performAll (setup : Setup) (books : Books) (tasks : List (BlockRef × Responder)) :
    (performAll setup books tasks).1.map Turn.head = tasks.map Prod.fst := by
  induction tasks generalizing books with
  | nil => rfl
  | cons task rest ih => exact congrArg (task.1 :: ·) (ih _)

theorem run_performAll (setup : Setup) (books : Books) (tasks : List (BlockRef × Responder)) :
    Run setup books (performAll setup books tasks).1 (performAll setup books tasks).2 := by
  induction tasks generalizing books with
  | nil => exact .nil
  | cons task rest ih => exact .cons (yields_perform setup books task.1 task.2) (ih _)

/-! ## A small chain -/

namespace Sample

def hash : Hash := ⟨List.replicate 32 0, rfl⟩

def address : Address := ⟨List.replicate 20 0, rfl⟩

def setup (takes : ActionKind → Bool) : Setup where
  challengeWindow := 10
  resolveWindow := 10
  retryInterval := 4
  rollup := ⟨address, [address], none⟩
  hasBlobs := false
  takes := takes

def challenger : Setup := setup fun kind => kind == .challenge

def block (number : BlockNumber) : BlockRef := ⟨hash, number, hash, 0⟩

def commitment (payload : UInt8) : Commitment := .generic [payload]

def batch (commitment : Commitment) : L1Transaction :=
  ⟨hash, address, some address, Batch.commitmentVersion :: commitment.encode, []⟩

def respond (posted : List Commitment) (input : Except ProviderError Bytes) (offer : Offer) :
    Responder
  | .advance _ => .ok ()
  | .input _ _ => input
  | .status _ _ => .active
  | .offer _ => offer
  | .batch (.transactions _) => .ok (posted.map batch)
  | .batch (.blobs _ _) => .ok []
  | .acted _ => ()

end Sample

/-! ## Moments -/

/-- What the coordinator looks through. -/
inductive Round where
  | followUps
  /-- a block, and why its commitments end early, if they do -/
  | block (fault? : Option SourceError)
deriving DecidableEq

/-- How far the work on a head has come. -/
inductive Stage where
  | resting
  /-- the subjects are still to be looked at -/
  | looking (round : Round) (head : BlockRef) (subjects : List Subject)
  | reading (head : BlockRef)

structure Moment where
  stage : Stage
  books : Books

/-- Something the coordinator does between two moments. -/
inductive Deed where
  /-- the provider could not follow, and the head is given up -/
  | refused (head : BlockRef) (cause : ProviderError)
  /-- the work on a head starts -/
  | entered (head : BlockRef)
  /-- the work on a head starts with everything forgotten -/
  | reset (head : BlockRef)
  | looked (head : BlockRef) (look : Look)
  /-- bonds and a withdrawal were offered -/
  | tended (head : BlockRef) (unlocks : List Unlock) (withdrawal? : Option Offer)
  | read (head : BlockRef) (reading : List (Program.Exchange Batch.Query Batch.Query.Answer))
    (fetched : Except SourceError (List Bytes))
  | left (head : BlockRef) (fault? : Option SourceError)

namespace Deed

def exchanges (setup : Setup) : Deed → List Exchange
  | refused head cause => [⟨.advance head.id, .error cause⟩]
  | entered head => [⟨.advance head.id, .ok ()⟩]
  | reset head => [⟨.advance head.id, .error .reorgRequired⟩]
  | looked _ look => look.exchanges setup
  | tended head unlocks withdrawal? =>
    unlocks.map Unlock.exchange ++ withdrawal?.toList.map (withdrawalExchange head.number)
  | read _ reading _ => reading.map Course.ofBatch
  | left _ _ => []

def head : Deed → BlockRef
  | refused head _ | entered head | reset head | looked head _ | tended head _ _ | read head _ _
  | left head _ => head

/-- Whether the turn of a head starts with the deed. -/
def starts : Deed → Bool
  | refused _ _ | entered _ | reset _ => true
  | _ => false

def Continues (head : BlockRef) (deed : Deed) : Prop :=
  deed.head = head ∧ deed.starts = false

end Deed

/-- A turn told deed by deed. -/
structure Tells (setup : Setup) (turn : Turn) (deeds : List Deed) : Prop where
  exchanges : deeds.flatMap (Deed.exchanges setup) = turn.trace
  opens : ∃ first rest, deeds = first :: rest ∧ first.head = turn.head ∧ first.starts = true ∧
    ∀ deed ∈ rest, deed.Continues turn.head

def Stage.after (stage : Stage) : Except Error Unit → Stage
  | .ok _ => stage
  | .error _ => .resting

/-- The follow-ups that are due are taken out of the books before any of them is looked at. -/
def Books.due (head : BlockNumber) (books : Books) : List FollowUp × Books :=
  let due := books.followUps.due head
  (due.1, { books with followUps := due.2 })

inductive Step (setup : Setup) : Moment → Deed → Moment → Prop where
  | refuse {books : Books} {head : BlockRef} {cause : ProviderError} :
      cause ≠ .reorgRequired →
      Step setup ⟨.resting, books⟩ (.refused head cause) ⟨.resting, books⟩
  | enter {books : Books} {head : BlockRef} :
      Step setup ⟨.resting, books⟩ (.entered head)
        ⟨.looking .followUps head ((books.due head.number).1.map FollowUp.subject),
          (books.due head.number).2⟩
  | reset {books : Books} {head : BlockRef} :
      Step setup ⟨.resting, books⟩ (.reset head) ⟨.looking .followUps head [], books.clear⟩
  | look {books : Books} {round : Round} {head : BlockRef} {rest : List Subject} {look : Look} :
      Step setup ⟨.looking round head (look.toSubject :: rest), books⟩ (.looked head look)
        ⟨Stage.after (.looking round head rest) (look.result setup),
          look.enter setup head.number books⟩
  | tend {books : Books} {head : BlockRef} {unlocks : List Unlock} {withdrawal? : Option Offer} :
      Unlocks (unlockable setup head.number books) unlocks →
      withdrawal?.isSome = setup.takes .withdraw →
      Step setup ⟨.looking .followUps head [], books⟩ (.tended head unlocks withdrawal?)
        ⟨.reading head, { books with bonds := unlocks.foldl Unlock.enter books.bonds }⟩
  | read {books : Books} {head : BlockRef} {entries : List Bytes}
      {reading : List (Program.Exchange Batch.Query Batch.Query.Answer)} :
      Program.Yields (Batch.entries setup.rollup setup.hasBlobs head) reading (.ok entries) →
      Step setup ⟨.reading head, books⟩ (.read head reading (.ok entries))
        ⟨.looking (.block (Batch.fault? entries)) head (posted head (Batch.yielded entries)), books⟩
  | fail {books : Books} {head : BlockRef} {cause : SourceError}
      {reading : List (Program.Exchange Batch.Query Batch.Query.Answer)} :
      Program.Yields (Batch.entries setup.rollup setup.hasBlobs head) reading (.error cause) →
      Step setup ⟨.reading head, books⟩ (.read head reading (.error cause)) ⟨.resting, books⟩
  | leave {books : Books} {head : BlockRef} {fault? : Option SourceError} :
      Step setup ⟨.looking (.block fault?) head [], books⟩ (.left head fault?) ⟨.resting, books⟩

/-- Some deeds lead from one moment to another. -/
inductive Reaches (setup : Setup) : Moment → List Deed → Moment → Prop where
  | nil {moment : Moment} : Reaches setup moment [] moment
  | snoc {start middle last : Moment} {history : List Deed} {deed : Deed} :
      Reaches setup start history middle → Step setup middle deed last →
      Reaches setup start (history ++ [deed]) last

namespace Reaches

variable {setup : Setup} {start middle last : Moment} {history later : List Deed} {deed : Deed}

theorem single (step : Step setup start deed last) : Reaches setup start [deed] last :=
  .snoc .nil step

theorem trans (first : Reaches setup start history middle)
    (second : Reaches setup middle later last) :
    Reaches setup start (history ++ later) last := by
  induction second with
  | nil => simpa using first
  | snoc _ step ih => rw [← List.append_assoc]; exact ih.snoc step

theorem cons (step : Step setup start deed middle) (rest : Reaches setup middle later last) :
    Reaches setup start (deed :: later) last :=
  (single step).trans rest

end Reaches

/-! ## Every run has a history -/

section
variable {setup : Setup} {head : BlockRef} {books before after : Books} {trace : List Exchange}
  {result : Except Error Unit}

open Course

/-- The turn of a head can be ended with the exchanges of a trace. -/
def Finishes (setup : Setup) (head : BlockRef) (start : Moment) (trace : List Exchange)
    (after : Books) : Prop :=
  ∃ history, Reaches setup start history ⟨.resting, after⟩ ∧
    history.flatMap (Deed.exchanges setup) = trace ∧ ∀ deed ∈ history, deed.Continues head

theorem Reaches.finishes {start middle : Moment} {history : List Deed}
    (run : Reaches setup start history middle) (going : ∀ deed ∈ history, deed.Continues head)
    (rest : Finishes setup head middle trace after) :
    Finishes setup head start (history.flatMap (Deed.exchanges setup) ++ trace) after := by
  obtain ⟨later, tail, rfl, going'⟩ := rest
  refine ⟨history ++ later, run.trans tail, by simp, fun deed mem => ?_⟩
  rcases List.mem_append.1 mem with mem | mem
  · exact going deed mem
  · exact going' deed mem

theorem flatMap_looked (setup : Setup) (head : BlockRef) (looks : List Look) :
    (looks.map (Deed.looked head)).flatMap (Deed.exchanges setup) =
      looks.flatMap (Look.exchanges setup) := by
  induction looks with
  | nil => rfl
  | cons look rest ih => simp [Deed.exchanges, ih]

theorem continues_looked {looks : List Look} :
    ∀ deed ∈ looks.map (Deed.looked head), deed.Continues head := by
  intro deed mem
  obtain ⟨look, _, rfl⟩ := List.mem_map.1 mem
  exact ⟨rfl, rfl⟩

theorem Sweep.reaches {round : Round} {subjects : List Subject} {looks : List Look}
    (swept : Sweep setup subjects looks result) :
    Reaches setup ⟨.looking round head subjects, books⟩ (looks.map (Deed.looked head))
      ⟨Stage.after (.looking round head []) result, enterAll setup head.number looks books⟩ := by
  -- each look is a step, and the stage after it depends on how it ended
  induction swept generalizing books with
  | nil => exact .nil
  | @cut look rest stopped =>
    have step := @Step.look setup books round head rest look
    rw [Look.result_of_interrupted stopped] at step
    exact .single step
  | @cons look rest looks _ going _ ih =>
    have step := @Step.look setup books round head rest look
    rw [Look.result_eq_ok going] at step
    exact .cons step ih

theorem leave_finishes {fault? : Option SourceError} :
    Finishes setup head ⟨.looking (.block fault?) head [], books⟩ [] books :=
  ⟨[.left head fault?], .single .leave, rfl, by simp [Deed.Continues, Deed.head, Deed.starts]⟩

theorem walk_finishes {entries : List Bytes}
    (run : Runs (walk setup head entries) before trace result after) :
    Finishes setup head
      ⟨.looking (.block (Batch.fault? entries)) head (posted head (Batch.yielded entries)), before⟩
      trace after := by
  obtain ⟨looks, swept, covers, rfl, rfl, rfl⟩ := walk_runs.1 run
  rw [← flatMap_looked setup head]
  cases swept with
  | ok _ =>
    simpa using covers.reaches.finishes continues_looked leave_finishes
  | error _ => exact ⟨_, covers.reaches, rfl, continues_looked⟩

theorem readBlock_finishes (run : Runs (readBlock setup head) before trace result after) :
    Finishes setup head ⟨.reading head, before⟩ trace after := by
  obtain ⟨reading, fetched, rest, reads, rfl, tail⟩ := readBlock_runs.1 run
  cases fetched with
  | error cause =>
    obtain ⟨rfl, rfl, rfl⟩ := tail
    exact ⟨[.read head reading (.error cause)], .single (.fail reads), by simp [Deed.exchanges],
      by simp [Deed.Continues, Deed.head, Deed.starts]⟩
  | ok entries =>
    have first := Reaches.single (@Step.read setup before head entries reading reads)
    have going : ∀ deed ∈ [Deed.read head reading (.ok entries)], deed.Continues head := by
      simp [Deed.Continues, Deed.head, Deed.starts]
    simpa [Deed.exchanges] using first.finishes going (walk_finishes tail)

def advanced (head : BlockRef) (books : Books) :
    Except ProviderError Unit → Except Error Unit × Books
  | .ok _ => (.ok (), books)
  | .error .reorgRequired => (.ok (), books.clear)
  | .error cause => (.error (.advanceOrigin head.number cause), books)

theorem advance_runs :
    Runs (advance head) before trace result after ↔
      ∃ origin, trace = [⟨.advance head.id, origin⟩] ∧
        (result, after) = advanced head before origin := by
  constructor
  · intro run
    obtain ⟨origin, _, rfl, tail⟩ := (runs_query_bind (.advance head.id)).1 run
    refine ⟨origin, ?_⟩
    match origin with
    | .ok _ => obtain ⟨rfl, rfl, rfl⟩ := runs_pure.1 tail; exact ⟨rfl, rfl⟩
    | .error .reorgRequired => obtain ⟨rfl, rfl, rfl⟩ := runs_modify.1 tail; exact ⟨rfl, rfl⟩
    | .error .activeChallenge | .error .pendingChallenge | .error .expiredChallenge
    | .error .missingPastWindow | .error (.other _) =>
      obtain ⟨rfl, rfl, rfl⟩ := runs_throw.1 tail; exact ⟨rfl, rfl⟩
  · rintro ⟨origin, rfl, outcome⟩
    refine (runs_query_bind (.advance head.id)).2 ⟨origin, [], rfl, ?_⟩
    match origin with
    | .ok _ => cases outcome; exact runs_pure.2 ⟨rfl, rfl, rfl⟩
    | .error .reorgRequired => cases outcome; exact runs_modify.2 ⟨rfl, rfl, rfl⟩
    | .error .activeChallenge | .error .pendingChallenge | .error .expiredChallenge
    | .error .missingPastWindow | .error (.other _) =>
      cases outcome; exact runs_throw.2 ⟨rfl, rfl, rfl⟩

def work (setup : Setup) (head : BlockRef) : Course Unit := do
  handleFollowUps setup head.number (← takeDue head.number)
  unlock setup head.number
  withdraw setup head.number
  readBlock setup head

theorem tend_finishes
    (run : Runs (do unlock setup head.number; withdraw setup head.number; readBlock setup head)
      before trace result after) :
    Finishes setup head ⟨.looking .followUps head [], before⟩ trace after := by
  obtain ⟨_, _, _, _, rfl, unlocked, tail⟩ | ⟨_, _, unlocked⟩ := runs_bind.1 run
  · obtain ⟨unlocks, offered, rfl, _, rfl⟩ := unlock_runs.1 unlocked
    obtain ⟨_, _, _, _, rfl, withdrawn, last⟩ | ⟨_, _, withdrawn⟩ := runs_bind.1 tail
    · obtain ⟨withdrawal?, isSome, rfl, _, rfl⟩ := withdraw_runs.1 withdrawn
      have first := Reaches.single (@Step.tend setup before head unlocks withdrawal? offered isSome)
      have going : ∀ deed ∈ [Deed.tended head unlocks withdrawal?], deed.Continues head := by
        simp [Deed.Continues, Deed.head, Deed.starts]
      simpa [Deed.exchanges] using first.finishes going (readBlock_finishes last)
    · obtain ⟨_, _, _, wrong, _⟩ := withdraw_runs.1 withdrawn
      cases wrong
  · obtain ⟨_, _, _, wrong, _⟩ := unlock_runs.1 unlocked
    cases wrong

theorem work_finishes (run : Runs (work setup head) before trace result after) :
    Finishes setup head
      ⟨.looking .followUps head ((before.due head.number).1.map FollowUp.subject),
        (before.due head.number).2⟩ trace after := by
  have run := runs_modifyGet_bind.1 run
  rw [handleFollowUps_eq, runs_bind] at run
  obtain ⟨_, _, _, _, rfl, first, tail⟩ | ⟨error, rfl, first⟩ := run
  · obtain ⟨looks, covers, rfl, rfl⟩ := sweep_runs.1 first
    rw [← flatMap_looked setup head]
    exact covers.reaches.finishes continues_looked (tend_finishes tail)
  · obtain ⟨looks, covers, rfl, rfl⟩ := sweep_runs.1 first
    exact ⟨_, covers.reaches, flatMap_looked setup head looks, continues_looked⟩

theorem course_reaches (run : Runs (course setup head) before trace result after) :
    ∃ deeds, Reaches setup ⟨.resting, before⟩ deeds ⟨.resting, after⟩ ∧
      Tells setup ⟨head, trace, result⟩ deeds := by
  have run : Runs (advance head >>= fun _ => work setup head) before trace result after := run
  rcases runs_bind.1 run with ⟨_, _, _, _, rfl, moved, tail⟩ | ⟨error, rfl, moved⟩
  · -- the provider followed, and the head is worked on
    obtain ⟨origin, rfl, outcome⟩ := advance_runs.1 moved
    match origin with
    | .ok () =>
      cases outcome
      obtain ⟨history, worked, rfl, going⟩ := work_finishes tail
      exact ⟨.entered head :: history, .cons .enter worked, rfl, _, _, rfl, rfl, rfl, going⟩
    | .error .reorgRequired =>
      cases outcome
      obtain ⟨history, worked, rfl, going⟩ := work_finishes tail
      exact ⟨.reset head :: history, .cons .reset worked, rfl, _, _, rfl, rfl, rfl, going⟩
    | .error .activeChallenge | .error .pendingChallenge | .error .expiredChallenge
    | .error .missingPastWindow | .error (.other _) => cases outcome
  · -- it did not, and the turn is this one deed
    obtain ⟨origin, rfl, outcome⟩ := advance_runs.1 moved
    match origin with
    | .ok () | .error .reorgRequired => cases outcome
    | .error .activeChallenge | .error .pendingChallenge | .error .expiredChallenge
    | .error .missingPastWindow | .error (.other _) =>
      cases outcome
      exact ⟨[.refused head _], .single (.refuse (by simp)), rfl, _, _, rfl, rfl, rfl, by simp⟩

/-- The turns of a run told deed by deed. -/
structure Told (setup : Setup) (before : Books) (turns : List Turn) (after : Books)
    (parts : List (List Deed)) : Prop where
  tells : List.Forall₂ (Tells setup) turns parts
  reaches : Reaches setup ⟨.resting, before⟩ parts.flatten ⟨.resting, after⟩

theorem Run.told {turns : List Turn} (run : Run setup before turns after) :
    ∃ parts, Told setup before turns after parts := by
  induction run with
  | nil => exact ⟨[], .nil, .nil⟩
  | cons turn _ ih =>
    obtain ⟨deeds, worked, tells⟩ := course_reaches turn
    obtain ⟨parts, rest⟩ := ih
    exact ⟨deeds :: parts, .cons tells rest.tells, worked.trans rest.reaches⟩

end

end ChallengeGame.Coordinator
