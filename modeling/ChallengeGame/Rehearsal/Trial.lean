import ChallengeGame.Rehearsal.Settling

/-!
# Rehearsing a challenger by itself

A trial moves a challenger step by step from the outside. After every step everybody runs
until nobody can move.
-/

namespace ChallengeGame.Rehearsal

open Scripted (Scene)

structure Trial where
  setup : Challenger.Setup
  challenger : Challenger
  /-- the shutdown signal that the crew is started under -/
  crewCancelled : Bool
  /-- the number of calls so far that handed over a head -/
  calls : Nat
  /-- what became of the calls that returned since the last report -/
  delivered : List Bool
  /-- the result of the last head that was handed over directly, since the last report -/
  result? : Option (Except Coordinator.Error Unit)

namespace Trial

inductive Step where
  /-- starts one member of the crew, or all -/
  | start (kind? : Option ActionKind)
  /-- closes one member of the crew, or one after the other -/
  | close (kind? : Option ActionKind)
  | cancelCrew
  | cancel
  | process (head : BlockRef)
  | startDesk
  | notify (head : BlockRef)
  | closeDesk
  | adjust (change : Scene → Scene)

def new (setup : Challenger.Setup) (books : Coordinator.Books) : Trial :=
  ⟨setup, Challenger.new books setup.coordinator.takes, false, 0, [], none⟩

def note (trial : Trial) : Challenger.Event → Trial
  | .desk (.delivered _ _ accepted) => { trial with delivered := trial.delivered ++ [accepted] }
  | .desk (.finished _ result) =>
    if trial.challenger.desk.phase = .unstarted then { trial with result? := some result } else trial
  | _ => trial

def act? (action : Challenger.Action) (trial : Trial) : Option (Trial × List Challenger.Event) :=
  (trial.challenger.step? trial.setup action).map fun (challenger, shown) =>
    (shown.foldl note { trial with challenger }, shown)

def direction : Direction Trial where
  challenger := challenger
  act? := act?
  afterCall := id
  calls trial := trial.challenger.desk.waiting.length

def members (kind? : Option ActionKind) : List ActionKind := kind?.elim ActionKind.all ([·])

def closeMember (play : Play Trial) (kind : ActionKind) : Play Trial :=
  let closed := (play.attempt direction (.crew kind (.close 0))).settle direction
  closed.attempt direction (.crew kind (.finishClose 0))

def apply (play : Play Trial) : Step → Play Trial
  | .start kind? =>
    (members kind?).foldl (fun play kind =>
      play.attempt direction (.crew kind (.start play.company.crewCancelled))) play
  | .close kind? => (members kind?).foldl closeMember play
  | .cancelCrew =>
    let cancelled := ActionKind.all.foldl (fun (play : Play Trial) kind =>
      play.attempt direction (.crew kind .cancel)) play
    { cancelled with company := { cancelled.company with crewCancelled := true } }
  | .cancel => play.attempt direction (.desk .cancel)
  | .process head => play.attempt direction (.desk (.process head))
  | .startDesk => play.attempt direction (.desk .start)
  | .notify head =>
    let call := play.company.calls
    { play with company := { play.company with calls := call + 1 } }.attempt direction
      (.desk (.send call head))
  | .closeDesk => play.attempt direction (.desk (.close 0))
  | .adjust change => { play with scene := change play.scene }

def perform (play : Play Trial) (step : Step) : Play Trial := (apply play step).settle direction

def reported (play : Play Trial) : Play Trial :=
  ⟨{ play.company with delivered := [], result? := none }, play.scene.reported⟩

def undelivered (trial : Trial) : Nat := trial.challenger.desk.waiting.length

end Trial

end ChallengeGame.Rehearsal
