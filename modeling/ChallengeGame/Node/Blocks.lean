import ChallengeGame.L1
import ChallengeGame.Node

/-!
# Blocks of a node

A block is read with all its fields: a field of the wrong form spoils the block even if
nothing here needs it. Blob hashes are no regular field of a transaction and are only
looked at once the block is read.
-/

namespace ChallengeGame.Node

/-- Whether a field may be missing or null. -/
inductive Presence where
  | required
  /-- missing stands for null, and null is a value -/
  | nullable
  /-- missing stands for a default, null is refused -/
  | defaulted
deriving DecidableEq

structure Field where
  name : String
  presence : Presence
  hasForm : Document → Bool

def Field.isValid (document : Document) (field : Field) : Bool :=
  match document.field? field.name, field.presence with
  | none, .required => false
  | none, _ => true
  | some .null, .nullable => true
  | some value, _ => field.hasForm value

def isFixed (size : Nat) (document : Document) : Bool := (document.fixed? size).isSome

def isBytes (document : Document) : Bool := document.bytes?.isSome

def isWord (document : Document) : Bool := document.word?.isSome

def number? : Document → Option UInt64
  | .text value => (Hex.readQuantity 16 value).map UInt64.ofNat
  | _ => none

def isNumber (document : Document) : Bool := (number? document).isSome

def isListOf (hasForm : Document → Bool) : Document → Bool
  | .list items => items.all hasForm
  | _ => false

def isAccess (document : Document) : Bool :=
  match document.fields? ["address", "storageKeys"] with
  | some [some address, some keys] => isFixed 20 address && isListOf (isFixed 32) keys
  | _ => false

def isWithdrawal (document : Document) : Bool :=
  match document.fields? ["index", "validatorIndex", "address", "amount"] with
  | some [some index, some validator, some address, some amount] =>
    isNumber index && isNumber validator && isFixed 20 address && isWord amount
  | _ => false

def transactionFields : List Field := [
  ⟨"hash", .required, isFixed 32⟩,
  ⟨"nonce", .required, isWord⟩,
  ⟨"blockHash", .nullable, isFixed 32⟩,
  ⟨"blockNumber", .nullable, isNumber⟩,
  ⟨"transactionIndex", .nullable, isNumber⟩,
  ⟨"from", .defaulted, isFixed 20⟩,
  ⟨"to", .nullable, isFixed 20⟩,
  ⟨"value", .required, isWord⟩,
  ⟨"gasPrice", .nullable, isWord⟩,
  ⟨"gas", .required, isWord⟩,
  ⟨"input", .required, isBytes⟩,
  ⟨"v", .required, isNumber⟩,
  ⟨"r", .required, isWord⟩,
  ⟨"s", .required, isWord⟩,
  ⟨"type", .nullable, isNumber⟩,
  ⟨"accessList", .nullable, isListOf isAccess⟩,
  ⟨"maxPriorityFeePerGas", .nullable, isWord⟩,
  ⟨"maxFeePerGas", .nullable, isWord⟩,
  ⟨"chainId", .nullable, isWord⟩]

def isRecordOf (fields : List Field) (document : Document) : Bool :=
  match document with
  | .record _ => fields.all (Field.isValid document)
  | _ => false

/-- The fields of a block whose transactions have a given form. -/
def blockFields (isTransaction : Document → Bool) : List Field := [
  ⟨"hash", .nullable, isFixed 32⟩,
  ⟨"parentHash", .defaulted, isFixed 32⟩,
  ⟨"sha3Uncles", .defaulted, isFixed 32⟩,
  ⟨"miner", .nullable, isFixed 20⟩,
  ⟨"stateRoot", .defaulted, isFixed 32⟩,
  ⟨"transactionsRoot", .defaulted, isFixed 32⟩,
  ⟨"receiptsRoot", .defaulted, isFixed 32⟩,
  ⟨"number", .nullable, isNumber⟩,
  ⟨"gasUsed", .defaulted, isWord⟩,
  ⟨"gasLimit", .defaulted, isWord⟩,
  ⟨"extraData", .defaulted, isBytes⟩,
  ⟨"logsBloom", .nullable, isFixed 256⟩,
  ⟨"timestamp", .defaulted, isWord⟩,
  ⟨"difficulty", .defaulted, isWord⟩,
  ⟨"totalDifficulty", .nullable, isWord⟩,
  ⟨"sealFields", .nullable, isListOf isBytes⟩,
  ⟨"uncles", .defaulted, isListOf (isFixed 32)⟩,
  ⟨"transactions", .defaulted, isListOf isTransaction⟩,
  ⟨"size", .nullable, isWord⟩,
  ⟨"mixHash", .nullable, isFixed 32⟩,
  ⟨"nonce", .nullable, isFixed 8⟩,
  ⟨"baseFeePerGas", .nullable, isWord⟩,
  ⟨"withdrawalsRoot", .nullable, isFixed 32⟩,
  ⟨"withdrawals", .nullable, isListOf isWithdrawal⟩]

def block? (isTransaction : Document → Bool) (document : Document) : Option (Option Document) :=
  match document with
  | .null => some none
  | _ => if isRecordOf (blockFields isTransaction) document then some (some document) else none

/-! ## Transactions of a block -/

inductive BlockError where
  | notFound (hash : Hash)
  | fault (fault : Fault)
  | malformedBlobs (transaction : Hash)
deriving DecidableEq

namespace BlockError

def message : BlockError → String
  | notFound hash => (L1Error.notFound hash).message
  | fault found => found.failure.text
  | malformedBlobs transaction =>
    "malformed blob hashes in transaction " ++ Hex.encode transaction.bytes

def error (blockError : BlockError) : L1Error :=
  match blockError with
  | notFound hash => .notFound hash
  | _ => .other ⟨blockError.message, []⟩

end BlockError

def transactionsRequest (hash : Hash) : Request :=
  ⟨"eth_getBlockByHash", [.bytes hash.bytes, .boolean true]⟩

/-- The hashes of a transaction's blobs: none if the field is missing, nothing if it is
there without being a list of hashes. -/
def blobHashes? (transaction : Document) : Option (List Hash) :=
  match transaction.field? "blobVersionedHashes" with
  | none => some []
  | some (.list hashes) => hashes.mapM (Document.fixed? 32)
  | some _ => none

def fixedField (size : Nat) (document : Document) (name : String) : FixedBytes size :=
  ((document.field? name).bind (Document.fixed? size)).getD (FixedBytes.zero size)

def transaction (document : Document) : Except BlockError L1Transaction :=
  let hash := fixedField 32 document "hash"
  match blobHashes? document with
  | none => .error (.malformedBlobs hash)
  | some blobs =>
    .ok {
      hash
      sender := fixedField 20 document "from"
      to? := (document.field? "to").bind (Document.fixed? 20)
      input := ((document.field? "input").bind Document.bytes?).getD []
      blobs }

def transactions (hash : Hash) (reply : Reply) : Except BlockError (List L1Transaction) :=
  match reply.read (block? (isRecordOf transactionFields)) with
  | .error fault => .error (.fault fault)
  | .ok none => .error (.notFound hash)
  | .ok (some document) =>
    (((document.field? "transactions").bind Document.list?).getD []).mapM transaction

/-! ## The finalized block -/

def finalizedRequest : Request :=
  ⟨"eth_getBlockByNumber", [.text "finalized", .boolean false]⟩

/-- What comes of asking for the finalized block. A timestamp beyond 64 bits ends the
reader itself, not only the question. -/
inductive HeadReading where
  | head (block : BlockRef)
  | failed (failure : Failure)
  | aborted

def finalized (reply : Reply) : HeadReading :=
  match reply.read (block? (isFixed 32)) with
  | .error fault => .failed (fault.failure.under "failed to fetch the finalized block")
  | .ok none => .failed ⟨"node has no finalized block", []⟩
  | .ok (some document) =>
    match (document.field? "hash").bind (Document.fixed? 32) with
    | none => .failed ⟨"finalized block has no hash", []⟩
    | some hash =>
      match (document.field? "number").bind number? with
      | none => .failed ⟨"finalized block has no number", []⟩
      | some number =>
        let time := (((document.field? "timestamp").bind Document.word?).getD 0).toNat
        if time < UInt64.size then
          .head ⟨hash, number, fixedField 32 document "parentHash", UInt64.ofNat time⟩
        else .aborted

end ChallengeGame.Node
