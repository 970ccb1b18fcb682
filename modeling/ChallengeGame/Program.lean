/-!
# Programs that ask

A computation that depends on collaborators is a finite tree: it is done, or it asks
one query and goes on with the answer. Nothing here says who answers. A run with a
table of answers, a run against scripted collaborators and a step-by-step run under
interruption all walk the same tree.
-/

namespace ChallengeGame

inductive Program (Query : Type) (Answer : Query → Type) (α : Type) where
  | done (value : α)
  | ask (query : Query) (next : Answer query → Program Query Answer α)

namespace Program

variable {Query : Type} {Answer : Query → Type} {α β γ : Type}

def bind : Program Query Answer α → (α → Program Query Answer β) → Program Query Answer β
  | done value, rest => rest value
  | ask query next, rest => ask query fun answer => (next answer).bind rest

instance : Monad (Program Query Answer) where
  pure := done
  bind := bind

def query (q : Query) : Program Query Answer (Answer q) :=
  ask q done

@[simp] theorem pure_eq (value : α) : (pure value : Program Query Answer α) = done value := rfl

@[simp] theorem done_bind (value : α) (rest : α → Program Query Answer β) :
    (done value >>= rest) = rest value := rfl

@[simp] theorem ask_bind (q : Query) (next : Answer q → Program Query Answer α)
    (rest : α → Program Query Answer β) :
    (ask q next >>= rest) = ask q fun answer => next answer >>= rest := rfl

@[simp] theorem bind_done (program : Program Query Answer α) : (program >>= done) = program := by
  induction program with
  | done value => rfl
  | ask q next ih => simp [ih]

theorem bind_assoc (program : Program Query Answer α) (f : α → Program Query Answer β)
    (g : β → Program Query Answer γ) :
    ((program >>= f) >>= g) = (program >>= fun value => f value >>= g) := by
  induction program with
  | done value => rfl
  | ask q next ih => simp [ih]

instance : LawfulMonad (Program Query Answer) :=
  LawfulMonad.mk' _ (fun program => bind_done program) (fun _ _ => rfl) bind_assoc

/-- Goes on after an answer to the query that the program asks. An answer to any
other query is not taken. -/
def resume [DecidableEq Query] (program : Program Query Answer α) (q : Query) (answer : Answer q) :
    Option (Program Query Answer α) :=
  match program with
  | done _ => none
  | ask asked next => if h : q = asked then some (next (h ▸ answer)) else none

@[simp] theorem resume_ask [DecidableEq Query] (q : Query)
    (next : Answer q → Program Query Answer α) (answer : Answer q) :
    (ask q next).resume q answer = some (next answer) := by
  simp [resume]

/-- Answers every query by a program over other queries. -/
def handle {Lower : Type} {LowerAnswer : Lower → Type}
    (handler : (q : Query) → Program Lower LowerAnswer (Answer q)) :
    Program Query Answer α → Program Lower LowerAnswer α
  | done value => done value
  | ask q next => handler q >>= fun answer => (next answer).handle handler

def run {σ : Type} (respond : (q : Query) → σ → Answer q × σ) :
    Program Query Answer α → σ → α × σ
  | done value, state => (value, state)
  | ask q next, state =>
    let reply := respond q state
    (next reply.1).run respond reply.2

@[simp] theorem run_done {σ : Type} (respond : (q : Query) → σ → Answer q × σ) (value : α)
    (state : σ) : (done value : Program Query Answer α).run respond state = (value, state) := rfl

theorem run_bind {σ : Type} (respond : (q : Query) → σ → Answer q × σ)
    (program : Program Query Answer α) (rest : α → Program Query Answer β) (state : σ) :
    (program >>= rest).run respond state =
      (rest (program.run respond state).1).run respond (program.run respond state).2 := by
  induction program generalizing state with
  | done value => rfl
  | ask q next ih => simp [run, ih]

/-- Runs a program until it is done or the next query is not answered yet. -/
def advance {σ : Type} (respond : (q : Query) → σ → Option (Answer q × σ)) :
    Program Query Answer α → σ → Program Query Answer α × σ
  | done value, state => (done value, state)
  | ask q next, state =>
    match respond q state with
    | none => (ask q next, state)
    | some (answer, later) => (next answer).advance respond later

/-- A query together with the answer it got. -/
structure Exchange (Query : Type) (Answer : Query → Type) where
  query : Query
  answer : Answer query

/-- The exchanges of a complete run and its result. -/
inductive Yields : Program Query Answer α → List (Exchange Query Answer) → α → Prop where
  | done (value : α) : Yields (.done value) [] value
  | ask {q : Query} {next : Answer q → Program Query Answer α} {answer : Answer q}
      {trace : List (Exchange Query Answer)} {value : α} :
      Yields (next answer) trace value → Yields (.ask q next) (⟨q, answer⟩ :: trace) value

end Program

end ChallengeGame
