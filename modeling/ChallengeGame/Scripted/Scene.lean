import ChallengeGame.PerKind
import ChallengeGame.Scripted.Chain
import ChallengeGame.Scripted.Post
import ChallengeGame.Scripted.Provider

/-!
# The surroundings of a rehearsal

A scene is everything that a challenger talks to: the provider, the chain and one post
for each kind of job. It answers every question except whether a job is taken, and it
keeps what is new since the last report.
-/

namespace ChallengeGame.Scripted

structure Scene where
  provider : Provider
  chain : Chain
  posts : PerKind Post
  caller : Caller
  /-- the blocks acted on since the last report, last first -/
  acted : List BlockNumber

namespace Scene

def adjustPost (kind : ActionKind) (change : Post → Post) (scene : Scene) : Scene :=
  { scene with posts := scene.posts.modify kind change }

def adjustPosts (kind? : Option ActionKind) (change : Post → Post) (scene : Scene) : Scene :=
  match kind? with
  | some kind => scene.adjustPost kind change
  | none => { scene with posts := scene.posts.map change }

/-- The answer to a coordinator. Whether a job is taken is not for the scene to say. -/
def respond? (query : Coordinator.Query) (scene : Scene) : Option (query.Answer × Scene) :=
  match query with
  | .advance head =>
    let (result, provider) := scene.provider.advance head
    some (result, { scene with provider })
  | .input commitment block =>
    let (input, provider) := scene.provider.input commitment block.number
    some (input, { scene with provider })
  | .status commitment _ => some (scene.provider.status commitment, scene)
  | .offer _ => none
  | .batch query =>
    let (answer, chain) := scene.chain.respond query
    some (answer, { scene with chain })
  | .acted block => some ((), { scene with acted := block :: scene.acted })

/-- The answer to the executor of a kind, unless it is held up. -/
def execute? (kind : ActionKind) (query : ExecutionQuery) (scene : Scene) :
    Option (query.Answer × Scene) :=
  ((scene.posts.get kind).respond? query scene.caller).map fun (answer, post, caller) =>
    (answer, { scene with posts := scene.posts.set kind post, caller })

def carryOut (account : Address) (job : Job) (scene : Scene) : Option (Except Failure Outcome) × Scene :=
  match (ChallengeGame.Executor.execute account job).advance (execute? job.kind) scene with
  | (.done result, scene) => (some result, scene)
  | (.ask _ _, scene) => (none, scene)

def reported (scene : Scene) : Scene :=
  { scene.adjustPosts none Post.reported with
    provider := { scene.provider with advanced := [], fetched := [] }
    chain := { scene.chain with requests := [] }
    caller := { scene.caller with made := [] }
    acted := [] }

end Scene

end ChallengeGame.Scripted
