import ChallengeGame.Batch

/-!
# A chain that follows a script

Blocks and blobs are as told. A block can be withheld for a reason, and the blobs of a
request can be cut short.
-/

namespace ChallengeGame.Scripted

structure Chain where
  blocks : List (Hash × List L1Transaction)
  /-- why blocks are withheld, newest word first -/
  withheld : List (Hash × Option String)
  blobs : List (Hash × Bytes)
  /-- how many blobs are missing at the end of each reply -/
  cut : Nat
  /-- the blobs asked for since the last report, last request first -/
  requests : List (List IndexedBlob)

namespace Chain

def new (cut : Nat) : Chain := ⟨[], [], [], cut, []⟩

def insertBlock (hash : Hash) (transactions : List L1Transaction) (chain : Chain) : Chain :=
  { chain with blocks := (hash, transactions) :: chain.blocks }

def withhold (hash : Hash) (reason? : Option String) (chain : Chain) : Chain :=
  { chain with withheld := (hash, reason?) :: chain.withheld }

def insertBlob (hash : Hash) (data : Bytes) (chain : Chain) : Chain :=
  { chain with blobs := (hash, data) :: chain.blobs }

def transactions (hash : Hash) (chain : Chain) : Except L1Error (List L1Transaction) :=
  match chain.withheld.lookup hash, chain.blocks.lookup hash with
  | some (some reason), _ => .error (.other ⟨reason, []⟩)
  | _, some transactions => .ok transactions
  | _, none => .error (.notFound hash)

def missing (block : BlockRef) (blob : IndexedBlob) : Failure :=
  ⟨"blob " ++ Hex.encode blob.hash.bytes ++ " missing in block " ++ toString block.number.toNat, []⟩

def blob (block : BlockRef) (chain : Chain) (wanted : IndexedBlob) : Except Failure Bytes :=
  match chain.blobs.lookup wanted.hash with
  | some data => .ok data
  | none => .error (missing block wanted)

def reply (block : BlockRef) (requested : List IndexedBlob) (chain : Chain) :
    Except Failure (List Bytes) := do
  let found ← requested.mapM (chain.blob block)
  pure (found.take (found.length - chain.cut))

def respond (query : Batch.Query) (chain : Chain) : query.Answer × Chain :=
  match query with
  | .transactions block => (chain.transactions block, chain)
  | .blobs block requested =>
    (chain.reply block requested, { chain with requests := requested :: chain.requests })

end Chain

end ChallengeGame.Scripted
