import ChallengeGame.Challenger
import ChallengeGame.Scripted.Scene

/-!
# Rehearsing a challenger

A rehearsal takes one of the many orders in which things may happen. Whoever has a turn
goes on until it has to wait. The members of the crew go first, then the coordinator, then
the first caller that waits for the inbox; this is repeated until nobody can move. While
the coordinator waits for a slot, the others have their turns.
-/

namespace ChallengeGame.Rehearsal

open Scripted (Scene)

/-- How a rehearsal moves a challenger, possibly as a part of something larger. -/
structure Direction (σ : Type) where
  challenger : σ → Challenger
  /-- an action on the challenger, if it is enabled, and what the challenger showed -/
  act? : Challenger.Action → σ → Option (σ × List Challenger.Event)
  /-- what the caller does whose call has just returned -/
  afterCall : σ → σ
  /-- how many calls can return at most before time passes -/
  calls : σ → Nat

structure Play (σ : Type) where
  company : σ
  scene : Scene

namespace Play

variable {σ : Type} (direction : Direction σ)

def desk (play : Play σ) : Desk := (direction.challenger play.company).desk

def crew (play : Play σ) : Crew := (direction.challenger play.company).crew

def act? (action : Challenger.Action) (play : Play σ) : Option (Play σ × List Challenger.Event) :=
  (direction.act? action play.company).map fun (company, shown) => ({ play with company }, shown)

def actFirst? (actions : List Challenger.Action) (play : Play σ) :
    Option (Play σ × List Challenger.Event) :=
  actions.findSome? fun action => play.act? direction action

def attempt (action : Challenger.Action) (play : Play σ) : Play σ :=
  ((play.act? direction action).map (·.1)).getD play

/-! ## The crew -/

def execute (kind : ActionKind) :
    Program ExecutionQuery ExecutionQuery.Answer Scheduler.Ending → Play σ → Play σ
  | .done _, play => play
  | .ask query next, play =>
    match play.scene.execute? kind query with
    | none => play
    | some (answer, scene) =>
      execute kind (next answer)
        ({ play with scene }.attempt direction (.crew kind (.progress ⟨query, answer⟩)))

def goOn (kind : ActionKind) (play : Play σ) : Play σ :=
  match (play.crew direction).get kind with
  | some { worker := .executing _ rest, .. } => play.execute direction kind rest
  | _ => play

/-- Lets a member run until it has to wait. Nobody fills its slot meanwhile, so it takes up
at most one job. -/
def pumpMember (play : Play σ) (kind : ActionKind) : Play σ :=
  let stopped := play.attempt direction (.crew kind .stop)
  let finished := (stopped.goOn direction kind).attempt direction (.crew kind .finish)
  let taken := finished.attempt direction (.crew kind .take)
  (taken.goOn direction kind).attempt direction (.crew kind .finish)

def pump (play : Play σ) : Play σ := ActionKind.all.foldl (pumpMember direction) play

/-! ## Callers -/

/-- The first caller that waits for the inbox has its turn, if its call returns. -/
def callerTurn? (play : Play σ) : Option (Play σ) :=
  (play.actFirst? direction [.desk .letIn, .desk .refuse]).map fun (play, _) =>
    { play with company := direction.afterCall play.company }

/-! ## The coordinator -/

def settled? (shown : List Challenger.Event) : Option Coordinator.Offer :=
  shown.findSome? fun
    | .offered _ answer => some answer
    | _ => none

/-- Makes an offer. If it has to wait, the others have their turns before it is looked at
again. -/
def offer (job : Job) (play : Play σ) : Option Coordinator.Offer × Play σ :=
  -- A shutdown is noticed before a call is made.
  let (made, shown) :=
    if (direction.challenger play.company).offering then (play, [])
    else (play.actFirst? direction [.interrupt, .offer]).getD (play, [])
  match settled? shown with
  | some answer => (some answer, made)
  | none =>
    -- A worker that takes a job out of the slot makes room for the call that waits.
    let others := ((made.callerTurn? direction).getD made).pump direction
    let (again, shown) := (others.actFirst? direction [.desk .stop, .interrupt,
      .crew job.kind .letIn, .crew job.kind .refuse]).getD (others, [])
    (settled? shown, again)

def reply (query : Coordinator.Query) (play : Play σ) : Option query.Answer × Play σ :=
  match query with
  | .offer job => play.offer direction job
  | query =>
    match play.scene.respond? query with
    | none => (none, play)
    | some (answer, scene) =>
      (some answer, { play with scene }.attempt direction (.desk (.progress ⟨query, answer⟩)))

def work : Coordinator.Asking Coordinator.Result → Play σ → Play σ
  | .done _, play => play
  | .ask query next, play =>
    match play.reply direction query with
    | (none, play) => play
    | (some answer, play) => work (next answer) play

def workOn (play : Play σ) : Play σ :=
  let desk := play.desk direction
  match desk.phase, desk.coordinator.activity with
  | .ended, _ => play
  | _, .working _ rest => play.work direction rest
  | _, .resting _ => play

def coordinatorTurn : (heads : Nat) → Play σ → Play σ
  | 0, play => play
  | heads + 1, play =>
    let stopped := play.attempt direction (.desk .stop)
    let worked := (stopped.attempt direction (.desk .take)).workOn direction
    match worked.act? direction (.desk .finish) with
    | some (finished, _) => coordinatorTurn heads finished
    | none => worked

/-! ## Everybody -/

def settleFrom : (turns : Nat) → Play σ → Play σ
  | 0, play => play
  | turns + 1, play =>
    let moved := (play.pump direction).coordinatorTurn direction (direction.calls play.company + 2)
    match moved.callerTurn? direction with
    -- The head that was let in is for the coordinator, so everybody has another turn.
    | some play => settleFrom turns play
    | none => moved.pump direction

def settle (play : Play σ) : Play σ :=
  play.settleFrom direction (direction.calls play.company + 1)

end Play

end ChallengeGame.Rehearsal
