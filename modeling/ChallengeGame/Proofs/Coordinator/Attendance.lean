import ChallengeGame.Proofs.Coordinator.History

/-!
# A coordinator that attends to heads

`Attends` follows a coordinator itself from head to head, one exchange after the other, the way
it is driven. It does what the runs of its books do, and what it keeps beside the books, the
highest block it acted on, is read off the exchanges.
-/

namespace ChallengeGame.Coordinator

/-- Takes the answers to what the coordinator asks, one after the other. -/
def progressAll? (trace : List Exchange) (coordinator : Coordinator) : Option Coordinator :=
  trace.foldlM (fun coordinator exchange => coordinator.progress? exchange) coordinator

def noteAll (trace : List Exchange) (coordinator : Coordinator) : Coordinator :=
  trace.foldl (fun coordinator exchange => coordinator.note exchange.query) coordinator

inductive Attends (setup : Setup) : Coordinator → List Turn → Coordinator → Prop where
  | nil {coordinator : Coordinator} : Attends setup coordinator [] coordinator
  | cons {before working worked rested after : Coordinator} {turn : Turn} {rest : List Turn} :
      before.begin? setup turn.head = some working →
      working.progressAll? turn.trace = some worked →
      worked.finish? = some (turn.head, turn.result, rested) →
      Attends setup rested rest after → Attends setup before (turn :: rest) after

variable {setup : Setup} {before after coordinator rested : Coordinator} {books : Books}
  {head head' : BlockRef} {trace more : List Exchange} {result : Except Error Unit}
  {turns : List Turn}

/-! ## One head -/

@[simp] theorem activity_note (query : Query) :
    (coordinator.note query).activity = coordinator.activity := by
  cases query <;> rfl

@[simp] theorem activity_noteAll :
    (coordinator.noteAll trace).activity = coordinator.activity := by
  induction trace generalizing coordinator with
  | nil => rfl
  | cons exchange rest ih => exact ih.trans (activity_note _)

theorem noteAll_append :
    coordinator.noteAll (trace ++ more) = (coordinator.noteAll trace).noteAll more :=
  List.foldl_append

theorem note_working (query : Query) (activity : Activity) :
    { coordinator with activity := activity }.note query =
      { coordinator.note query with activity := activity } := by
  cases query <;> rfl

theorem noteAll_with (activity : Activity) :
    { coordinator with activity := activity }.noteAll trace =
      { coordinator.noteAll trace with activity := activity } := by
  induction trace generalizing coordinator with
  | nil => rfl
  | cons exchange rest ih =>
    show ({ coordinator with activity := activity }.note exchange.query).noteAll rest = _
    rw [note_working, ih]
    rfl

theorem works_iff {program : Asking Coordinator.Result} :
    (∃ worked, { coordinator with activity := .working head program }.progressAll? trace =
        some worked ∧ worked.finish? = some (head', result, rested)) ↔
      head' = head ∧ ∃ books, Program.Yields program trace (result, books) ∧
        rested = { coordinator.noteAll trace with activity := .resting books } := by
  -- by the trace: what is left of the program and what was noted change with each exchange
  induction trace generalizing coordinator program with
  | nil =>
    constructor
    · rintro ⟨_, ⟨⟩, ends⟩
      match program with
      | .done (_, books) => cases ends; exact ⟨rfl, books, .done _, rfl⟩
    · rintro ⟨rfl, books, run, rfl⟩
      cases run
      exact ⟨_, rfl, rfl⟩
  | cons exchange rest ih =>
    have step : { coordinator with activity := .working head program }.progressAll?
        (exchange :: rest) = (program.resume exchange.query exchange.answer).bind fun next =>
          { coordinator.note exchange.query with activity := .working head next }.progressAll?
            rest := by
      simp only [progressAll?, List.foldlM_cons, progress?, note_working]
      cases program.resume exchange.query exchange.answer <;> rfl
    simp only [step, Option.bind_eq_some_iff, Program.resume_eq_some]
    constructor
    · rintro ⟨worked, ⟨_, ⟨next, rfl, rfl⟩, onward⟩, ends⟩
      obtain ⟨rfl, books, run, rfl⟩ := ih.1 ⟨worked, onward, ends⟩
      exact ⟨rfl, books, .ask run, rfl⟩
    · rintro ⟨rfl, books, run, rfl⟩
      obtain ⟨next, rfl, tail⟩ : ∃ next, program = .ask exchange.query next ∧
          Program.Yields (next exchange.answer) rest (result, books) := by
        cases run with
        | ask tail => exact ⟨_, rfl, tail⟩
      obtain ⟨worked, onward, ends⟩ := ih.2 ⟨rfl, books, tail, rfl⟩
      exact ⟨worked, ⟨_, ⟨next, rfl, rfl⟩, onward⟩, ends⟩

/-! ## Many heads -/

theorem attends_iff (resting : before.activity = .resting books) :
    Attends setup before turns after ↔ ∃ last, Run setup books turns last ∧
      after = { before.noteAll (turns.flatMap Turn.trace) with activity := .resting last } := by
  -- between two heads the coordinator rests with the books that the turn before has left
  induction turns generalizing before books with
  | nil =>
    constructor
    · rintro ⟨⟩
      refine ⟨books, .nil, ?_⟩
      rw [← resting]
      rfl
    · rintro ⟨_, ⟨⟩, rfl⟩
      rw [← resting]
      exact .nil
  | cons turn rest ih =>
    have begins : before.begin? setup turn.head =
        some { before with activity := .working turn.head (process setup books turn.head) } := by
      rw [begin?, resting]
    have noted (between last : Books) :
        { { before.noteAll turn.trace with activity := .resting between }.noteAll
          (rest.flatMap Turn.trace) with activity := .resting last } =
        { before.noteAll ((turn :: rest).flatMap Turn.trace) with activity := .resting last } := by
      rw [List.flatMap_cons, noteAll_append, noteAll_with]
    constructor
    · rintro (_ | ⟨begun, worked, ends, onward⟩)
      rw [begins] at begun
      cases begun
      obtain ⟨_, between, run, rfl⟩ := works_iff.1 ⟨_, worked, ends⟩
      obtain ⟨last, runs, rfl⟩ := (ih rfl).1 onward
      exact ⟨last, .cons run runs, noted between last⟩
    · rintro ⟨last, runs, rfl⟩
      cases runs with
      | @cons _ between _ _ _ run runs =>
        obtain ⟨worked, through, ends⟩ := works_iff.2 ⟨rfl, between, run, rfl⟩
        exact .cons begins through ends ((ih rfl).2 ⟨last, runs, (noted between last).symm⟩)

theorem Attends.eq_of_working {rest : Asking Coordinator.Result}
    (attends : Attends setup before turns after) (working : before.activity = .working head rest) :
    turns = [] ∧ after = before := by
  cases attends with
  | nil => exact ⟨rfl, rfl⟩
  | cons begun => simp [begin?, working] at begun

/-- The turns of some heads, each against answers of its own, and the coordinator after them. -/
def attendAll (setup : Setup) (coordinator : Coordinator) (books : Books)
    (tasks : List (BlockRef × Responder)) : List Turn × Coordinator :=
  let run := performAll setup books tasks
  (run.1, { coordinator.noteAll (run.1.flatMap Turn.trace) with activity := .resting run.2 })

theorem attends_attendAll (resting : before.activity = .resting books)
    (tasks : List (BlockRef × Responder)) :
    Attends setup before (attendAll setup before books tasks).1
      (attendAll setup before books tasks).2 :=
  (attends_iff resting).2 ⟨_, run_performAll setup books tasks, rfl⟩

/-! ## The highest block acted on -/

/-- The highest block that is told to have been acted on. -/
def highestActed : List Exchange → BlockNumber
  | [] => 0
  | ⟨.acted block, _⟩ :: rest => max block (highestActed rest)
  | _ :: rest => highestActed rest

theorem max_assoc_block (a b c : BlockNumber) : max (max a b) c = max a (max b c) := by
  rw [← UInt64.toNat_inj]
  simp only [UInt64.toNat_max, Nat.max_assoc]

theorem lastActed_noteAll :
    (coordinator.noteAll trace).lastActed = max coordinator.lastActed (highestActed trace) := by
  induction trace generalizing coordinator with
  | nil =>
    rw [← UInt64.toNat_inj, UInt64.toNat_max]
    exact (Nat.max_zero _).symm
  | cons exchange rest ih =>
    have further : (coordinator.noteAll (exchange :: rest)).lastActed =
        max (coordinator.note exchange.query).lastActed (highestActed rest) := ih
    rw [further]
    match exchange with
    | ⟨.acted block, _⟩ => exact max_assoc_block _ _ _
    | ⟨.advance _, _⟩ | ⟨.input _ _, _⟩ | ⟨.status _ _, _⟩ | ⟨.offer _, _⟩ | ⟨.batch _, _⟩ => rfl

theorem gauge_noteAll :
    (coordinator.noteAll trace).gauge =
      max coordinator.gauge (min (highestActed trace).toNat Gauge.largest) := by
  induction trace generalizing coordinator with
  | nil => exact (Nat.max_zero _).symm
  | cons exchange rest ih =>
    have further : (coordinator.noteAll (exchange :: rest)).gauge =
        max (coordinator.note exchange.query).gauge
          (min (highestActed rest).toNat Gauge.largest) := ih
    rw [further]
    match exchange with
    | ⟨.acted block, _⟩ =>
      simp only [note, metrics, Metrics.recordActed, Gauge.raise, highestActed, UInt64.toNat_max]
      omega
    | ⟨.advance _, _⟩ | ⟨.input _ _, _⟩ | ⟨.status _ _, _⟩ | ⟨.offer _, _⟩ | ⟨.batch _, _⟩ => rfl

end ChallengeGame.Coordinator
