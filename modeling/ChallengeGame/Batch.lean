import ChallengeGame.Commitment
import ChallengeGame.L1
import ChallengeGame.Program
import ChallengeGame.Rollup

/-!
# Batch data of a block

The entries of a block are the data of its batches in transaction order. Before the
blob upgrade a batch is the call data of its transaction. From then on a batch with
blobs is its blobs, and blobs are numbered over the whole block, whoever sent them.
-/

namespace ChallengeGame

inductive SourceError where
  /-- the block is no longer known, everything derived from it has to start over -/
  | reset (block : Hash)
  | temporary (failure : Failure)
  /-- an entry without even a version byte -/
  | notEnoughData
  | missingBlobsFetcher (block : BlockNumber)
deriving DecidableEq

namespace SourceError

def message : SourceError → String
  | reset block => "failed to fetch block " ++ Hex.encode block.bytes ++ ", derivation must be reset"
  | temporary _ => "temporary failure while reading batch data"
  | notEnoughData => "not enough data"
  | missingBlobsFetcher block =>
    "ecotone upgrade active at block " ++ toString block.toNat ++ " but beacon endpoint not configured"

def failure (error : SourceError) : Failure :=
  match error with
  | temporary cause => ⟨error.message, cause.chain⟩
  | _ => ⟨error.message, []⟩

def ofL1 : L1Error → SourceError
  | .notFound hash => reset hash
  | .other failure => temporary failure

end SourceError

namespace Batch

inductive Query where
  | transactions (block : Hash)
  | blobs (block : BlockRef) (requested : List IndexedBlob)
deriving DecidableEq

abbrev Query.Answer : Query → Type
  | transactions _ => Except L1Error (List L1Transaction)
  | blobs _ _ => Except Failure (List Bytes)

abbrev Reading := Program Query Query.Answer

/-- Where the entries of one block are. -/
structure Source where
  rollup : Rollup
  block : BlockRef
  inBlobs : Bool
deriving DecidableEq

/-- The source of a block. Nothing is fetched yet. -/
def Source.open (rollup : Rollup) (hasBlobs : Bool) (block : BlockRef) : Except SourceError Source :=
  if rollup.isEcotone block.time then
    if hasBlobs then .ok ⟨rollup, block, true⟩ else .error (.missingBlobsFetcher block.number)
  else .ok ⟨rollup, block, false⟩

def calldata (rollup : Rollup) (transactions : List L1Transaction) : List Bytes :=
  (transactions.filter rollup.isBatch).map (·.input)

/-! ## Blobs -/

inductive Slot where
  | calldata (data : Bytes)
  | blob (blob : IndexedBlob)
deriving DecidableEq

def numbered : (index : Nat) → List Hash → List IndexedBlob
  | _, [] => []
  | index, hash :: rest => ⟨UInt64.ofNat index, hash⟩ :: numbered (index + 1) rest

/-- The entries of the transactions after `index` blobs of the block. -/
def slots (rollup : Rollup) : (index : Nat) → List L1Transaction → List Slot
  | _, [] => []
  | index, transaction :: rest =>
    let own :=
      if rollup.isBatch transaction then
        if transaction.blobs.isEmpty then [.calldata transaction.input]
        else (numbered index transaction.blobs).map .blob
      else []
    own ++ slots rollup (index + transaction.blobs.length) rest

def Slot.blob? : Slot → Option IndexedBlob
  | calldata _ => none
  | blob wanted => some wanted

/-- The entries with the blobs put in, one for each place that waits for one. -/
def fill : List Slot → List Bytes → List Bytes
  | [], _ => []
  | .calldata data :: rest, blobs => data :: fill rest blobs
  | .blob _ :: rest, [] => fill rest []
  | .blob _ :: rest, blob :: blobs => blob :: fill rest blobs

def countFault (requested received : Nat) : SourceError :=
  .temporary ⟨"requested " ++ toString requested ++ " blobs but received " ++ toString received, []⟩

def loadBlobs (block : BlockRef) (slots : List Slot) : Reading (Except SourceError (List Bytes)) := do
  let requested := slots.filterMap Slot.blob?
  if requested.isEmpty then pure (.ok (fill slots []))
  else do
    let fetched : Except Failure (List Bytes) ← Program.query (Query.blobs block requested)
    match fetched with
    | .error failure => pure (.error (.temporary failure))
    | .ok blobs =>
      if blobs.length = requested.length then pure (.ok (fill slots blobs))
      else pure (.error (countFault requested.length blobs.length))

/-! ## Entries -/

def Source.load (source : Source) : Reading (Except SourceError (List Bytes)) := do
  let fetched : Except L1Error (List L1Transaction) ←
    Program.query (Query.transactions source.block.hash)
  match fetched with
  | .error error => pure (.error (.ofL1 error))
  | .ok transactions =>
    if source.inBlobs then loadBlobs source.block (slots source.rollup 0 transactions)
    else pure (.ok (calldata source.rollup transactions))

/-- A source together with the entries still to come, once they are loaded. -/
structure Reader where
  source : Source
  entries? : Option (List Bytes)

namespace Reader

def of (source : Source) : Reader := ⟨source, none⟩

def pending (reader : Reader) : Reading (Except SourceError (List Bytes)) :=
  match reader.entries? with
  | some entries => pure (.ok entries)
  | none => reader.source.load

/-- Hands the entries still to come to a consumer, which leaves some of them. -/
def consume {α : Type} (reader : Reader) (take : List Bytes → Except SourceError α × List Bytes) :
    Reading (Except SourceError α × Reader) := do
  match ← reader.pending with
  | .error error => pure (.error error, reader)
  | .ok entries =>
    let (result, rest) := take entries
    pure (result, { reader with entries? := some rest })

def first : List Bytes → Except SourceError (Option Bytes) × List Bytes
  | [] => (.ok none, [])
  | entry :: rest => (.ok (some entry), rest)

def next (reader : Reader) : Reading (Except SourceError (Option Bytes) × Reader) :=
  reader.consume first

end Reader

/-! ## Commitments -/

def commitmentVersion : UInt8 := 1

inductive Entry where
  | commitment (commitment : Commitment)
  /-- another kind of batch, or no well-formed commitment -/
  | irrelevant
  | empty
deriving DecidableEq

def Entry.ofBytes : Bytes → Entry
  | [] => empty
  | version :: encoded =>
    if version = commitmentVersion then
      match Commitment.decode encoded with
      | .ok found => .commitment found
      | .error _ => irrelevant
    else irrelevant

/-- The first commitment of what is handed over, and what is handed over after it. `entry` reads the
single things, which may be errors in the place of entries. -/
def firstCommitment {α : Type} (entry : α → Except SourceError Bytes) :
    List α → Except SourceError (Option Commitment) × List α
  | [] => (.ok none, [])
  | first :: rest =>
    match (entry first).map Entry.ofBytes with
    | .error error => (.error error, rest)
    | .ok (.commitment found) => (.ok (some found), rest)
    | .ok .irrelevant => firstCommitment entry rest
    | .ok .empty => (.error .notEnoughData, rest)

/-- The next commitment, or nothing at the end. The entries of a block come one after the other
without errors once they are loaded. -/
def Reader.nextCommitment (reader : Reader) :
    Reading (Except SourceError (Option Commitment) × Reader) :=
  reader.consume (firstCommitment .ok)

end Batch

end ChallengeGame
