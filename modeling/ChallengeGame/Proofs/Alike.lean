import ChallengeGame.Proofs.Program
import Mathlib.Data.List.Forall2

/-!
# Programs that ask alike

Two runs that ask alike and are answered alike end with the same result. What is alike is a
parameter: with equality this says that the answers determine a run, and a coarser relation says
that what it identifies makes no difference. Answers are compared only as far as the questions
agree, since whoever is asked something else may answer something else.
-/

namespace ChallengeGame.Program

/-- What counts as the same question, and what as the same exchange. -/
structure Likeness (Query : Type) (Answer : Query → Type) where
  queries : Query → Query → Prop
  exchanges : Exchange Query Answer → Exchange Query Answer → Prop

variable {Query : Type} {Answer : Query → Type} {α β : Type} {like : Likeness Query Answer}

namespace Likeness

def equal (Query : Type) (Answer : Query → Type) : Likeness Query Answer := ⟨Eq, Eq⟩

/-- The answers of two traces are alike, up to where the questions no longer are. -/
def Agree (like : Likeness Query Answer) :
    List (Exchange Query Answer) → List (Exchange Query Answer) → Prop
  | own :: rest, other :: others =>
    like.queries own.query other.query → like.exchanges own other ∧ like.Agree rest others
  | _, _ => True

theorem agree_of_forall {trace trace' : List (Exchange Query Answer)}
    (answered : ∀ own ∈ trace, ∀ other ∈ trace',
      like.queries own.query other.query → like.exchanges own other) :
    like.Agree trace trace' := by
  induction trace generalizing trace' with
  | nil => trivial
  | cons own rest ih =>
    cases trace' with
    | nil => trivial
    | cons other others =>
      intro asks
      refine ⟨answered own List.mem_cons_self other List.mem_cons_self asks, ih ?_⟩
      intro own mem other mem'
      exact answered own (List.mem_cons_of_mem _ mem) other (List.mem_cons_of_mem _ mem')

/-- A question is like itself, and so are its exchanges with the same answer only. -/
structure Fixes (like : Likeness Query Answer) (q : Query) : Prop where
  asks : like.queries q q
  answers : ∀ answer answer', like.exchanges ⟨q, answer⟩ ⟨q, answer'⟩ → answer = answer'

theorem equal_fixes (q : Query) : (equal Query Answer).Fixes q where
  asks := rfl
  answers answer answer' same := by
    have same : (⟨q, answer⟩ : Exchange Query Answer) = ⟨q, answer'⟩ := same
    injection same with _ same

theorem equal_agree (trace : List (Exchange Query Answer)) :
    (equal Query Answer).Agree trace trace := by
  induction trace with
  | nil => trivial
  | cons exchange rest ih => exact fun _ => ⟨rfl, ih⟩

end Likeness

/-- Two programs that ask alike as long as they are answered alike, and return the same. -/
inductive Similar (like : Likeness Query Answer) :
    Program Query Answer α → Program Query Answer α → Prop where
  | done (value : α) : Similar like (.done value) (.done value)
  | ask {q q' : Query} {next : Answer q → Program Query Answer α}
      {next' : Answer q' → Program Query Answer α} :
      like.queries q q' →
      (∀ answer answer', like.exchanges ⟨q, answer⟩ ⟨q', answer'⟩ →
        Similar like (next answer) (next' answer')) →
      Similar like (.ask q next) (.ask q' next')

namespace Similar

theorem query {q : Query} (fixes : like.Fixes q) :
    Similar like (Program.query q : Program Query Answer (Answer q)) (Program.query q) := by
  refine .ask fixes.asks fun answer answer' same => ?_
  rw [fixes.answers answer answer' same]
  exact .done answer'

theorem bind {program program' : Program Query Answer α} {next next' : α → Program Query Answer β}
    (first : Similar like program program')
    (second : ∀ value, Similar like (next value) (next' value)) :
    Similar like (program >>= next) (program' >>= next') := by
  induction first with
  | done value => exact second value
  | ask asks _ ih => exact .ask asks fun answer answer' same => ih answer answer' same

theorem refl (fixes : ∀ q, like.Fixes q) (program : Program Query Answer α) :
    Similar like program program := by
  induction program with
  | done value => exact .done value
  | ask q next ih =>
    refine .ask (fixes q).asks fun answer answer' same => ?_
    rw [(fixes q).answers answer answer' same]
    exact ih answer'

theorem yields {program program' : Program Query Answer α}
    {trace trace' more more' : List (Exchange Query Answer)} {value value' : α}
    (similar : Similar like program program') (run : Yields program trace value)
    (run' : Yields program' trace' value')
    (agree : like.Agree (trace ++ more) (trace' ++ more')) :
    List.Forall₂ like.exchanges trace trace' ∧ value = value' ∧ like.Agree more more' := by
  induction similar generalizing trace trace' with
  | done own =>
    obtain ⟨rfl, rfl⟩ := yields_done.1 run
    obtain ⟨rfl, rfl⟩ := yields_done.1 run'
    exact ⟨.nil, rfl, agree⟩
  | ask asks _ ih =>
    obtain ⟨answer, rest, rfl, tail⟩ := yields_ask.1 run
    obtain ⟨answer', rest', rfl, tail'⟩ := yields_ask.1 run'
    obtain ⟨same, agree⟩ := agree asks
    obtain ⟨alike, ends, onward⟩ := ih answer answer' same tail tail' agree
    exact ⟨.cons same alike, ends, onward⟩

end Similar

end ChallengeGame.Program
