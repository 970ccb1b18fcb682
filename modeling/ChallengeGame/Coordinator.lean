import ChallengeGame.Batch
import ChallengeGame.BondLedger
import ChallengeGame.Executor
import ChallengeGame.FollowUps
import ChallengeGame.Provider

/-!
# The coordinator

For every finalized head the coordinator moves the input provider on, looks again at
the follow-ups that are due, offers bonds for unlocking and one withdrawal, and then
looks at each commitment of the block. A commitment leads to at most one job, and only
a job that was not taken is looked at again.
-/

namespace ChallengeGame.Coordinator

/-- What a coordinator decides with. -/
structure Setup where
  /-- blocks after a commitment during which it can be challenged -/
  challengeWindow : UInt64
  /-- blocks after a challenge during which it can be resolved -/
  resolveWindow : UInt64
  retryInterval : UInt64
  rollup : Rollup
  hasBlobs : Bool
  /-- the kinds of jobs that somebody takes -/
  takes : ActionKind → Bool

namespace Setup

def challengeDeadline (setup : Setup) (block : BlockNumber) : BlockNumber :=
  block.later setup.challengeWindow

def resolveDeadline (setup : Setup) (block : BlockNumber) : BlockNumber :=
  (setup.challengeDeadline block).later setup.resolveWindow

end Setup

/-- What a coordinator keeps from one head to the next. -/
structure Books where
  followUps : FollowUps
  bonds : BondLedger

namespace Books

def new (retryInterval : UInt64) : Books := ⟨FollowUps.new retryInterval, BondLedger.empty⟩

def clear (books : Books) : Books := ⟨books.followUps.clear, BondLedger.empty⟩

end Books

inductive Error where
  /-- there is neither anything to challenge with nor anything to resolve with -/
  | nothingToDo
  | advanceOrigin (head : BlockNumber) (cause : ProviderError)
  | source (cause : SourceError)
  | cancelled
deriving DecidableEq

namespace Error

def message : Error → String
  | nothingToDo => "actor needs to be configured with a challenger or a resolver, or both"
  | advanceOrigin head _ =>
    "failed to advance plasma L1 origin to block " ++ toString head.toNat
  | source _ => "failed to return input commitment for batch"
  | cancelled => "actor was cancelled"

def failure (error : Error) : Failure :=
  match error with
  | advanceOrigin _ cause => ⟨error.message, cause.failure.chain⟩
  | source cause => ⟨error.message, cause.failure.chain⟩
  | _ => ⟨error.message, []⟩

/-- Whether no later block can be processed either. -/
def isFatal : Error → Bool
  | source (.missingBlobsFetcher _) => true
  | _ => false

end Error

/-- What became of a job that was offered. -/
inductive Offer where
  | queued
  /-- another job was in the way -/
  | dropped
  /-- nobody takes jobs of this kind any more -/
  | closed
  /-- the offer was not made because of a shutdown -/
  | cancelled
deriving DecidableEq

inductive Query where
  | advance (head : BlockId)
  | input (commitment : Commitment) (block : BlockRef)
  | status (commitment : Commitment) (block : BlockNumber)
  | offer (job : Job)
  | batch (query : Batch.Query)
  /-- tells that a job for a commitment of the block was taken -/
  | acted (block : BlockNumber)
deriving DecidableEq

abbrev Query.Answer : Query → Type
  | advance _ => Except ProviderError Unit
  | input _ _ => Except ProviderError Bytes
  | status _ _ => ChallengeStatus
  | offer _ => Offer
  | batch query => query.Answer
  | acted _ => Unit

abbrev Asking := Program Query Query.Answer

/-- A part of the work on one head. It may change the books, and the changes stay even
if it fails. -/
abbrev Course := ExceptT Error (StateT Books Asking)

namespace Course

def ask {α : Type} (asking : Asking α) : Course α := ExceptT.lift (StateT.lift asking)

def advance (head : BlockId) : Course (Except ProviderError Unit) :=
  ask (Program.query (Query.advance head))

def input (commitment : Commitment) (block : BlockRef) : Course (Except ProviderError Bytes) :=
  ask (Program.query (Query.input commitment block))

def status (commitment : Commitment) (block : BlockNumber) : Course ChallengeStatus :=
  ask (Program.query (Query.status commitment block))

def offer (job : Job) : Course Offer :=
  ask (Program.query (Query.offer job))

def acted (block : BlockNumber) : Course Unit :=
  ask (Program.query (Query.acted block))

def batch {α : Type} (reading : Batch.Reading α) : Course α :=
  ask (reading.handle fun query => Program.query (Query.batch query))

end Course

/-! ## Decisions -/

inductive Decision where
  | act (job : Job)
  | nothing
  /-- the input could not be fetched for reasons of no meaning -/
  | retry
deriving DecidableEq

def decisionWithout (setup : Setup) (posting : Posting) : ProviderError → Decision
  | .pendingChallenge => if setup.takes .challenge then .act (.challenge posting) else .nothing
  | .other _ => .retry
  | _ => .nothing

def evaluate (setup : Setup) (block : BlockRef) (commitment : Commitment) : Course Decision := do
  let posting := Posting.of block.number commitment
  match ← Course.input commitment block with
  | .error error => pure (decisionWithout setup posting error)
  | .ok input =>
    if setup.takes .resolve then
      let status ← Course.status commitment block.number
      if status = .active then pure (.act (.resolve ⟨posting, input⟩)) else pure .nothing
    else pure .nothing

/-- The last head at which a job for a commitment of the block makes sense. -/
def deadline (setup : Setup) (block : BlockNumber) : Job → BlockNumber
  | .challenge _ => setup.challengeDeadline block
  | _ => setup.resolveDeadline block

def track (head : BlockNumber) (block : BlockRef) (commitment : Commitment) (deadline : BlockNumber) :
    Course Unit :=
  modify fun books => { books with followUps := books.followUps.track head block commitment deadline }

def lockBond (setup : Setup) (block : BlockRef) (commitment : Commitment) : Job → Course Unit
  | .challenge _ =>
    if setup.takes .unlock then
      modify fun books =>
        { books with
          bonds := books.bonds.insert block.number commitment (setup.resolveDeadline block.number) }
    else pure ()
  | _ => pure ()

/-- Offers a job for a commitment. A job that was taken is never offered again, one that
was not is tracked until its deadline. -/
def act (setup : Setup) (head : BlockNumber) (block : BlockRef) (commitment : Commitment) (job : Job) :
    Course Unit := do
  match ← Course.offer job with
  | .queued =>
    -- The job is on its way, whatever happens to the rest of the head.
    Course.acted block.number
    lockBond setup block commitment job
  | .cancelled => throw .cancelled
  | _ => track head block commitment (deadline setup block.number job)

/-- Looks at one commitment. `known?` is the deadline it was tracked with, if it was. -/
def handle (setup : Setup) (head : BlockNumber) (block : BlockRef) (commitment : Commitment)
    (known? : Option BlockNumber) : Course Unit := do
  match ← evaluate setup block commitment with
  | .nothing => pure ()
  | .retry => track head block commitment (known?.getD (setup.resolveDeadline block.number))
  | .act job => act setup head block commitment job

/-! ## One head -/

def handleFollowUps (setup : Setup) (head : BlockNumber) : List FollowUp → Course Unit
  | [] => pure ()
  | followUp :: rest => do
    handle setup head followUp.block followUp.commitment (some followUp.deadline)
    handleFollowUps setup head rest

def takeDue (head : BlockNumber) : Course (List FollowUp) :=
  modifyGet fun books =>
    let due := books.followUps.due head
    (due.1, { books with followUps := due.2 })

/-- Offers bonds until one is not taken. The others wait for a later head. -/
def offerUnlocks : List (BlockNumber × Posting) → Course Unit
  | [] => pure ()
  | (block, posting) :: rest => do
    match ← Course.offer (.unlock posting) with
    | .queued => do
      modify fun books => { books with bonds := books.bonds.remove block posting }
      offerUnlocks rest
    | _ => pure ()

def unlock (setup : Setup) (head : BlockNumber) : Course Unit := do
  if setup.takes .unlock then
    offerUnlocks ((← get).bonds.eligible head)
  else pure ()

/-- Nothing hangs on whether the withdrawal is taken: the next head offers another. -/
def withdraw (setup : Setup) (head : BlockNumber) : Course Unit := do
  if setup.takes .withdraw then
    let _ ← Course.offer (.withdraw head)
    pure ()
  else pure ()

def walk (setup : Setup) (head : BlockRef) : List Bytes → Course Unit
  | [] => pure ()
  | entry :: rest => do
    match Batch.Entry.ofBytes entry with
    | .commitment commitment => handle setup head.number head commitment none
    | .irrelevant => pure ()
    | .empty => throw (.source .notEnoughData)
    walk setup head rest

def readBlock (setup : Setup) (head : BlockRef) : Course Unit := do
  match Batch.Source.open setup.rollup setup.hasBlobs head with
  | .error error => throw (.source error)
  | .ok source =>
    match ← Course.batch source.load with
    | .error error => throw (.source error)
    | .ok entries => walk setup head entries

/-- Moves the provider on. After a reorg nothing remembered counts any more. -/
def advance (head : BlockRef) : Course Unit := do
  match ← Course.advance head.id with
  | .ok _ => pure ()
  | .error .reorgRequired => modify Books.clear
  | .error error => throw (.advanceOrigin head.number error)

def course (setup : Setup) (head : BlockRef) : Course Unit := do
  advance head
  handleFollowUps setup head.number (← takeDue head.number)
  unlock setup head.number
  withdraw setup head.number
  readBlock setup head

abbrev Result := Except Error Unit × Books

def process (setup : Setup) (books : Books) (head : BlockRef) : Asking Result :=
  (course setup head).run.run books

/-- A coordinator needs something to challenge or to resolve with. -/
def start (setup : Setup) : Except Error Books :=
  if setup.takes .challenge || setup.takes .resolve then .ok (Books.new setup.retryInterval)
  else .error .nothingToDo

end ChallengeGame.Coordinator
