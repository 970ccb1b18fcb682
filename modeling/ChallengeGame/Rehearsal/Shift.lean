import ChallengeGame.Rehearsal.Settling
import ChallengeGame.Scripted.Feed
import ChallengeGame.Service

/-!
# Rehearsing a service

A shift is a service with a clock and a feed of heads. Time moves from one thing that is
due to the next, and between them everybody runs until nobody can move. A stop lets time
pass only while it waits for an answer to the watch.
-/

namespace ChallengeGame.Rehearsal

open Contract (Registry)
open Scripted (Scene)

structure Shift where
  setup : Service.Setup
  service : Service
  /-- milliseconds since the beginning -/
  now : Nat
  feed : Scripted.Feed
  /-- the answer to the question of the watch and when it comes -/
  pending? : Option (Nat × Node.HeadReading)

namespace Shift

inductive Step where
  | start
  | stop
  | cancel
  | advance (milliseconds : Nat)
  | adjust (change : Scene → Scene)
  /-- nothing happens -/
  | look

/-! ## Setting up -/

def bind (query : Registry.Query Scripted.Binder) (scene : Scene) :
    Except ContractError Unit × Scene :=
  match query.binder.connect query.address scene.caller with
  | (.error error, caller) => (.error error, { scene with caller })
  | (.ok connection, caller) =>
    (.ok (), { scene.adjustPosts none fun post => { post with connection } with caller })

def consult (request : Contract.Request) (scene : Scene) : request.Reply × Scene :=
  let post := scene.posts.challenge
  let (reply, connection, caller) := post.connection.respond request scene.caller
  (reply, { scene.adjustPost .challenge (fun post => { post with connection }) with caller })

def respond (query : Service.Query Scripted.Binder Unit) (scene : Scene) : query.Answer × Scene :=
  match query with
  | .bind query => bind query scene
  | .challengeWindow _ => consult .challengeWindow scene
  | .resolveWindow _ => consult .resolveWindow scene

def prepare (registry : Registry Scripted.Binder) (account : Address) (hasBlobs : Bool)
    (config : Config) (feed : Scripted.Feed) (scene : Scene) :
    Except Service.Error Shift × Scene :=
  let (prepared, scene) :=
    (Service.prepare registry account hasBlobs config).run.run respond scene
  (prepared.map fun (setup, books) => ⟨setup, Service.new setup books, 0, feed, none⟩, scene)

/-! ## The watch -/

def move? (action : Service.Action) (shift : Shift) : Option Shift :=
  (shift.service.step? shift.setup action).map fun (service, _) => { shift with service }

def ask (shift : Shift) : Shift :=
  let (reading, feed) := shift.feed.ask
  { shift with feed, pending? := some (shift.now + reading.delay, reading.answer) }

def arrived? (shift : Shift) : Option Node.HeadReading :=
  match shift.pending? with
  | some (due, reading) => if due ≤ shift.now then some reading else none
  | none => none

def watchStep? (shift : Shift) : Option Shift := do
  match (← shift.service.watch?).phase with
  | .waiting =>
    -- A shutdown counts before a tick that is due at the same time.
    shift.move? (.watch .stop) <|> (shift.move? (.watch (.tick shift.now))).map ask
  | .asking _ =>
    match shift.arrived? with
    -- An answer that comes at the last moment still counts.
    | some reading => shift.move? (.watch (.answer reading))
    | none => shift.move? (.watch (.giveUp shift.now))
  | .delivering _ => shift.move? (.watch .stop) <|> shift.move? .send
  | .stopped => none

/-- How many more times the watch can tick before time passes. -/
def ticks (shift : Shift) : Nat :=
  match shift.service.watch? with
  | some watch => shift.now + 1 - watch.due
  | none => 0

def watchFrom : (steps : Nat) → Shift → Shift
  | 0, shift => shift
  | steps + 1, shift =>
    match shift.watchStep? with
    | some shift => watchFrom steps shift
    | none => shift

/-- The watch goes on until it has to wait. A tick brings a question, an answer and a head
to hand over. -/
def watchTurn (shift : Shift) : Shift := shift.watchFrom (3 * shift.ticks + 3)

def nextTime? (shift : Shift) : Option Nat := do
  let watch ← shift.service.watch?
  match watch.phase with
  | .waiting => some watch.due
  | .asking since =>
    let giveUp := since + HeadWatch.patience
    some ((shift.pending?.map fun pending => min pending.1 giveUp).getD giveUp)
  | _ => none

/-! ## The challenger -/

def act? (action : Challenger.Action) (shift : Shift) : Option (Shift × List Challenger.Event) :=
  (shift.service.step? shift.setup (.challenger action)).map fun (service, shown) =>
    ({ shift with service }, shown.filterMap fun
      | .challenger event => some event
      | _ => none)

def direction : Direction Shift where
  challenger shift := shift.service.challenger
  act? := act?
  afterCall := watchTurn
  calls shift := shift.ticks + 1

/-! ## Steps -/

def settle (play : Play Shift) : Play Shift :=
  { play with company := play.company.watchTurn }.settle direction

def atTime (time : Nat) (play : Play Shift) : Play Shift :=
  { play with company := { play.company with now := max play.company.now time } }

def advanceFrom : (moments : Nat) → (target : Nat) → Play Shift → Play Shift
  | 0, target, play => settle (atTime target play)
  | moments + 1, target, play =>
    match play.company.nextTime? with
    | some time =>
      if time ≤ target then advanceFrom moments target (settle (atTime time play))
      else atTime target play
    | none => atTime target play

/-- Lets time pass. Every tick moves the next one on, and each tick brings at most one more
moment, so the moments are bounded by the time. -/
def advance (milliseconds : Nat) (play : Play Shift) : Play Shift :=
  let target := play.company.now + milliseconds
  let due := (play.company.service.watch?.map (·.due)).getD target
  advanceFrom (2 * (target + 2 - due) + 2) target play

/-- Follows a stop to its end. It waits for at most one answer, and otherwise for nothing
that takes time. -/
def stopFrom : (steps : Nat) → Play Shift → Play Shift
  | 0, play => play
  | steps + 1, play =>
    let play := settle play
    match play.company.move? .proceed with
    | some company => stopFrom steps { play with company }
    | none =>
      match play.company.service.stage, play.company.nextTime? with
      -- The watch does not notice the stop before its question is answered.
      | .leavingWatch, some time => stopFrom steps (atTime time play)
      | _, _ => play

def stopSteps : Nat := ActionKind.all.length + 4

def stop (play : Play Shift) : Play Shift :=
  match play.company.move? .stop with
  | some company => stopFrom stopSteps { play with company }
  | none => play

def refusal? (shown : List Service.Event) : Option Service.Error :=
  shown.findSome? fun
    | .startReturned (.error error) => some error
    | _ => none

def start (play : Play Shift) : Except Service.Error (Play Shift) :=
  let shift := play.company
  match shift.service.step? shift.setup (.start shift.now) with
  | some (service, shown) =>
    match refusal? shown with
    | some error => .error error
    | none => .ok (settle { play with company := { shift with service } })
  | none => .error .alreadyStarted

def perform (play : Play Shift) : Step → Except Service.Error (Play Shift)
  | .start => start play
  | .stop => .ok (stop play)
  | .cancel =>
    .ok (settle { play with company := (play.company.move? .cancel).getD play.company })
  | .advance milliseconds => .ok (advance milliseconds play)
  | .adjust change => .ok (settle { play with scene := change play.scene })
  | .look => .ok play

end Shift

end ChallengeGame.Rehearsal
