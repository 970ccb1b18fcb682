import ChallengeGame.Node.Blocks

/-!
# Watching the finalized head

A watch asks for the finalized head at every tick and hands a head over if its hash is not
the one of the last head handed over. A question without an answer is given up after ten
seconds. A shutdown is noticed between questions and while a head is being handed over,
never during a question. Times are in milliseconds.
-/

namespace ChallengeGame

namespace HeadWatch

inductive Phase where
  /-- until the next tick -/
  | waiting
  /-- for an answer to the question asked then -/
  | asking (since : Nat)
  | delivering (head : BlockRef)
  | stopped
deriving DecidableEq

inductive Event where
  | asked
  /-- a head is to be handed over -/
  | found (head : BlockRef)
  | delivered (head : BlockRef)
  /-- a head was not handed over -/
  | lost (head : BlockRef)

inductive Action where
  | tick (now : Nat)
  | answer (reading : Node.HeadReading)
  | giveUp (now : Nat)
  /-- the head was taken or refused -/
  | deliver (accepted : Bool)
  /-- the shutdown signal of the watch is given -/
  | cancel
  /-- the watch notices the shutdown -/
  | stop

/-- How long a question may take. -/
def patience : Nat := 10000

/-- How late a tick may be and still count as on time. -/
def tolerance : Nat := 5

/-- The tick after one that was due at a time and is seen now. Once ticks are late, the
later ones move with them. -/
def nextTick (period due now : Nat) : Nat :=
  if now - due > tolerance then now + period else due + period

end HeadWatch

structure HeadWatch where
  phase : HeadWatch.Phase
  /-- when the next tick is due -/
  due : Nat
  /-- the hash of the last head handed over -/
  last? : Option Hash
  cancelled : Bool
deriving DecidableEq

namespace HeadWatch

abbrev Stepped := HeadWatch × List Event

/-- A watch whose first tick is due at once. -/
def new (now : Nat) : HeadWatch := ⟨.waiting, now, none, false⟩

def tick? (period now : Nat) (watch : HeadWatch) : Option Stepped :=
  match watch.phase with
  | .waiting =>
    if watch.due ≤ now then
      some ({ watch with phase := .asking now, due := nextTick period watch.due now }, [.asked])
    else none
  | _ => none

def isNew (head : BlockRef) (watch : HeadWatch) : Bool := watch.last? != some head.hash

def answer? (reading : Node.HeadReading) (watch : HeadWatch) : Option Stepped :=
  match watch.phase, reading with
  | .asking _, .head head =>
    if watch.isNew head then some ({ watch with phase := .delivering head }, [.found head])
    else some ({ watch with phase := .waiting }, [])
  | .asking _, .failed _ => some ({ watch with phase := .waiting }, [])
  | .asking _, .aborted => some ({ watch with phase := .stopped }, [])
  | _, _ => none

def giveUp? (now : Nat) (watch : HeadWatch) : Option Stepped :=
  match watch.phase with
  | .asking since =>
    if since + patience ≤ now then some ({ watch with phase := .waiting }, []) else none
  | _ => none

/-- A watch whose head is refused stops for good. -/
def deliver? (accepted : Bool) (watch : HeadWatch) : Option Stepped :=
  match watch.phase, accepted with
  | .delivering head, true =>
    some ({ watch with phase := .waiting, last? := some head.hash }, [.delivered head])
  | .delivering head, false => some ({ watch with phase := .stopped }, [.lost head])
  | _, _ => none

def stop? (watch : HeadWatch) : Option Stepped :=
  match watch.cancelled, watch.phase with
  | true, .waiting => some ({ watch with phase := .stopped }, [])
  | true, .delivering head => some ({ watch with phase := .stopped }, [.lost head])
  | _, _ => none

def step? (period : Nat) (watch : HeadWatch) : Action → Option Stepped
  | .tick now => tick? period now watch
  | .answer reading => answer? reading watch
  | .giveUp now => giveUp? now watch
  | .deliver accepted => deliver? accepted watch
  | .cancel => some ({ watch with cancelled := true }, [])
  | .stop => stop? watch

def run? (period : Nat) : HeadWatch → List Action → Option Stepped
  | watch, [] => some (watch, [])
  | watch, action :: rest => do
    let (watch, shown) ← step? period watch action
    let (watch, later) ← run? period watch rest
    some (watch, shown ++ later)

end HeadWatch

end ChallengeGame
