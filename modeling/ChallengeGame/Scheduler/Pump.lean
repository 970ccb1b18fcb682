import ChallengeGame.Scheduler

/-!
# Letting a worker run

Without interruption a worker stops if it was told to, and otherwise carries out jobs
until the slot is empty or an answer is missing. Nobody fills the slot meanwhile, so it
takes up at most one job.
-/

namespace ChallengeGame.Scheduler

variable {Job Query : Type} {Answer : Query → Type} {σ : Type}

/-- A scheduler in its surroundings, and what it has shown. -/
structure Pumped (Job Query : Type) (Answer : Query → Type) (σ : Type) where
  scheduler : Scheduler Job Query Answer
  surroundings : σ
  shown : List (Event Job)

namespace Pumped

def attempt (action : Scheduler Job Query Answer → Option (Stepped Job Query Answer))
    (state : Pumped Job Query Answer σ) : Pumped Job Query Answer σ :=
  match action state.scheduler with
  | some (scheduler, shown) => { state with scheduler, shown := state.shown ++ shown }
  | none => state

/-- Goes on with an execution as far as it is answered. -/
def advance (respond : (q : Query) → σ → Option (Answer q × σ)) (state : Pumped Job Query Answer σ) :
    Pumped Job Query Answer σ :=
  match state.scheduler.worker with
  | .executing job rest =>
    let (rest, surroundings) := rest.advance respond state.surroundings
    { state with scheduler := { state.scheduler with worker := .executing job rest }, surroundings }
  | _ => state

end Pumped

def pump (setup : Setup Job Query Answer) (respond : (q : Query) → σ → Option (Answer q × σ))
    (scheduler : Scheduler Job Query Answer) (surroundings : σ) : Pumped Job Query Answer σ :=
  let start : Pumped Job Query Answer σ := ⟨scheduler, surroundings, []⟩
  let finished := ((start.attempt stop?).advance respond).attempt finish?
  ((finished.attempt (take? setup)).advance respond).attempt finish?

end ChallengeGame.Scheduler
