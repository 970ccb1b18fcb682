import ChallengeGame.Coordinator.Activity
import ChallengeGame.Proofs.Program

/-!
# Runs of a course

A run of a course starts from some books, makes its exchanges, and ends with a result and
with the books it leaves behind, which are kept even if the result is an error. There is
one law for each way to build a course.
-/

namespace ChallengeGame.Coordinator.Course

variable {α β : Type} {before after : Books} {trace : List Exchange}

/-- The course started with the books `before` can make these exchanges, end with this
result and leave the books `after`. -/
def Runs (course : Course α) (before : Books) (trace : List Exchange) (result : Except Error α)
    (after : Books) : Prop :=
  Program.Yields (course.run.run before) trace (result, after)

theorem runs_pure {value : α} {result : Except Error α} :
    Runs (pure value) before trace result after ↔
      trace = [] ∧ result = .ok value ∧ after = before := by
  simp only [Runs, ExceptT.run_pure, StateT.run_pure, Program.pure_eq, Program.yields_done,
    Prod.mk.injEq]

theorem runs_throw {error : Error} {result : Except Error α} :
    Runs (throw error) before trace result after ↔
      trace = [] ∧ result = .error error ∧ after = before := by
  simp only [Runs, ExceptT.run_throw, StateT.run_pure, Program.pure_eq, Program.yields_done,
    Prod.mk.injEq]

theorem runs_ofExcept {outcome result : Except Error α} :
    Runs (MonadExcept.ofExcept outcome) before trace result after ↔
      trace = [] ∧ result = outcome ∧ after = before := by
  cases outcome with
  | ok value => exact runs_pure
  | error error => exact runs_throw

/-- The first error of a course ends it. -/
theorem runs_bind {course : Course α} {next : α → Course β} {result : Except Error β} :
    Runs (course >>= next) before trace result after ↔
      (∃ value between first second, trace = first ++ second ∧
        Runs course before first (.ok value) between ∧
        Runs (next value) between second result after) ∨
      ∃ error, result = .error error ∧ Runs course before trace (.error error) after := by
  simp only [Runs, ExceptT.run_bind, StateT.run_bind, Program.yields_bind]
  constructor
  · rintro ⟨⟨value | value, between⟩, first, second, rfl, head, tail⟩
    · -- the first part ended with an error, which is the result
      obtain ⟨rfl, ends⟩ := Program.yields_done.1 tail
      cases ends
      exact .inr ⟨value, rfl, by simpa using head⟩
    · exact .inl ⟨value, between, first, second, rfl, head, tail⟩
  · rintro (⟨value, between, first, second, rfl, head, tail⟩ | ⟨error, rfl, run⟩)
    · exact ⟨(.ok value, between), first, second, rfl, head, tail⟩
    · exact ⟨(.error error, after), trace, [], by simp, run, .done _⟩

theorem runs_ask {asking : Asking α} {result : Except Error α} :
    Runs (ask asking) before trace result after ↔
      ∃ value, Program.Yields asking trace value ∧ result = .ok value ∧ after = before := by
  simp only [Runs, ask, ExceptT.run_lift, StateT.run_map, StateT.run_lift, map_bind,
    Program.pure_eq, Program.map_done, Program.yields_bind, Program.yields_done, Prod.mk.injEq]
  constructor
  · rintro ⟨value, first, _, rfl, run, rfl, rfl, rfl⟩
    exact ⟨value, by simpa using run, rfl, rfl⟩
  · rintro ⟨value, run, rfl, rfl⟩
    exact ⟨value, trace, [], by simp, run, rfl, rfl, rfl⟩

/-- An exchange of a reading as an exchange of the coordinator. -/
def ofBatch (exchange : Program.Exchange Batch.Query Batch.Query.Answer) : Exchange :=
  ⟨.batch exchange.query, exchange.answer⟩

theorem yields_batch {reading : Batch.Reading α} {value : α} :
    Program.Yields (reading.handle fun query => Program.query (Query.batch query)) trace value ↔
      ∃ own, Program.Yields reading own value ∧ trace = own.map ofBatch := by
  induction reading generalizing trace with
  | done other =>
    simp only [Program.handle, Program.yields_done]
    constructor
    · rintro ⟨rfl, rfl⟩; exact ⟨[], ⟨rfl, rfl⟩, rfl⟩
    · rintro ⟨_, ⟨rfl, rfl⟩, rfl⟩; exact ⟨rfl, rfl⟩
  | ask query next ih =>
    simp only [Program.handle, Program.yields_bind, Program.yields_query, Program.yields_ask, ih]
    constructor
    · rintro ⟨answer, _, _, rfl, rfl, own, run, rfl⟩
      exact ⟨⟨query, answer⟩ :: own, ⟨answer, own, rfl, run⟩, rfl⟩
    · rintro ⟨_, ⟨answer, own, rfl, run⟩, rfl⟩
      exact ⟨answer, [⟨.batch query, answer⟩], _, rfl, rfl, own, run, rfl⟩

theorem runs_batch {reading : Batch.Reading α} {result : Except Error α} :
    Runs (batch reading) before trace result after ↔
      ∃ own value, Program.Yields reading own value ∧ trace = own.map ofBatch ∧
        result = .ok value ∧ after = before := by
  rw [batch, runs_ask]
  constructor
  · rintro ⟨value, run, rfl, rfl⟩
    obtain ⟨own, reads, rfl⟩ := yields_batch.1 run
    exact ⟨own, value, reads, rfl, rfl, rfl⟩
  · rintro ⟨own, value, run, rfl, rfl, rfl⟩
    exact ⟨value, yields_batch.2 ⟨own, run, rfl⟩, rfl, rfl⟩

theorem batch_bind (reading : Batch.Reading α) (next : α → Batch.Reading β) :
    batch (reading >>= next) = batch reading >>= fun value => batch (next value) := by
  have lifts {γ : Type} (read : Batch.Reading γ) :
      batch read = (liftM (read.handle fun query =>
        Program.query (Query.batch query) : Asking γ) : Course γ) := rfl
  simp only [lifts, Program.handle_bind, liftM_bind]

/-- A query is one exchange, and the rest goes on with its answer. -/
theorem runs_query_bind (query : Query) {next : query.Answer → Course β}
    {result : Except Error β} :
    Runs (ask (Program.query query) >>= next) before trace result after ↔
      ∃ answer rest, trace = ⟨query, answer⟩ :: rest ∧
        Runs (next answer) before rest result after := by
  simp only [runs_bind, runs_ask, Program.yields_query]
  constructor
  · rintro (⟨answer, _, _, rest, rfl, ⟨_, rfl, same, rfl⟩, tail⟩ | ⟨_, _, _, _, wrong, _⟩)
    · cases same; exact ⟨answer, rest, rfl, tail⟩
    · cases wrong
  · rintro ⟨answer, rest, rfl, tail⟩
    exact .inl ⟨answer, before, [⟨query, answer⟩], rest, rfl, ⟨answer, rfl, rfl, rfl⟩, tail⟩

theorem runs_modify {change : Books → Books} {result : Except Error Unit} :
    Runs (modify change) before trace result after ↔
      trace = [] ∧ result = .ok () ∧ after = change before := by
  show Program.Yields (.done (.ok (), change before)) trace (result, after) ↔ _
  rw [Program.yields_done, Prod.mk.injEq]

theorem runs_modify_bind {change : Books → Books} {next : PUnit → Course β}
    {result : Except Error β} :
    Runs (modify change >>= next) before trace result after ↔
      Runs (next ()) (change before) trace result after :=
  Iff.rfl

theorem runs_modifyGet_bind {change : Books → α × Books} {next : α → Course β}
    {result : Except Error β} :
    Runs (modifyGet change >>= next) before trace result after ↔
      Runs (next (change before).1) (change before).2 trace result after :=
  Iff.rfl

theorem runs_get_bind {next : Books → Course β} {result : Except Error β} :
    Runs (get >>= next) before trace result after ↔ Runs (next before) before trace result after :=
  Iff.rfl

end ChallengeGame.Coordinator.Course
