import ChallengeGame.Challenge
import ChallengeGame.Document

/-!
# Documents of the data model

Postings, challenges, resolutions and blocks are records with fixed field names;
statuses, types and kinds are names. Each value has one document, and reading that
document gives the value back. Reading is wider: records may also be lists of their
fields in order, and names of fields that are not known are skipped.
-/

namespace ChallengeGame

open Document (bytes quantity)

namespace Posting

def document (posting : Posting) : Document :=
  .record [
    ("challenged_block_number", quantity posting.block.toNat),
    ("challenged_commitment", bytes posting.commitment)]

def ofDocument? (document : Document) : Option Posting := do
  match ← document.fields? ["challenged_block_number", "challenged_commitment"] with
  | [some block, some commitment] => some ⟨← block.word?, ← commitment.bytes?⟩
  | _ => none

end Posting

namespace Challenge

def document (record : Challenge) : Document :=
  .record [
    ("arg", record.posting.document),
    ("challenger", bytes record.challenger.bytes),
    ("locked_bond", quantity record.lockedBond.toNat),
    ("start_block", quantity record.startBlock.toNat),
    ("resolved_block", quantity record.resolvedBlock.toNat)]

def ofDocument? (document : Document) : Option Challenge := do
  match ← document.fields? ["arg", "challenger", "locked_bond", "start_block", "resolved_block"] with
  | [some posting, some challenger, some lockedBond, some startBlock, some resolvedBlock] =>
    some {
      posting := ← Posting.ofDocument? posting
      challenger := ← challenger.fixed? 20
      lockedBond := ← lockedBond.word?
      startBlock := ← startBlock.word?
      resolvedBlock := ← resolvedBlock.word? }
  | _ => none

end Challenge

namespace Resolution

def document (resolution : Resolution) : Document :=
  .record [("arg", resolution.posting.document), ("blob", bytes resolution.input)]

def ofDocument? (document : Document) : Option Resolution := do
  match ← document.fields? ["arg", "blob"] with
  | [some posting, some input] => some ⟨← Posting.ofDocument? posting, ← input.bytes?⟩
  | _ => none

end Resolution

namespace BlockRef

def document (block : BlockRef) : Document :=
  .record [
    ("hash", bytes block.hash.bytes),
    ("number", .ofNat block.number.toNat),
    ("parent_hash", bytes block.parent.bytes),
    ("time", .ofNat block.time.toNat)]

def ofDocument? (document : Document) : Option BlockRef := do
  match ← document.fields? ["hash", "number", "parent_hash", "time"] with
  | [some hash, some number, some parent, some time] =>
    some ⟨← hash.fixed? 32, ← number.uint64?, ← parent.fixed? 32, ← time.uint64?⟩
  | _ => none

end BlockRef

namespace BlockId

def document (block : BlockId) : Document :=
  .record [("hash", bytes block.hash.bytes), ("number", .ofNat block.number.toNat)]

def ofDocument? (document : Document) : Option BlockId := do
  match ← document.fields? ["hash", "number"] with
  | [some hash, some number] => some ⟨← hash.fixed? 32, ← number.uint64?⟩
  | _ => none

end BlockId

namespace ChallengeStatus

/-- The name of a status in documents, which differs from the one in messages. -/
def title : ChallengeStatus → String
  | uninitialized => "Uninitialized"
  | active => "Active"
  | resolved => "Resolved"
  | expired => "Expired"

def document (status : ChallengeStatus) : Document := .text status.title

def ofDocument? (document : Document) : Option ChallengeStatus :=
  document.choice? .json ([uninitialized, active, resolved, expired].map fun s => (s.title, s))

end ChallengeStatus

namespace CommitmentType

def document (type : CommitmentType) : Document := .text type.name

def ofDocument? (format : Document.Format) (document : Document) : Option CommitmentType :=
  document.choice? format ([keccak256, generic].map fun t => (t.name, t))

end CommitmentType

namespace CommitmentKind

def document (kind : CommitmentKind) : Document := .text kind.name

def ofDocument? (format : Document.Format) (document : Document) : Option CommitmentKind :=
  document.choice? format (([undefined, eigenDA].map fun k => (k.name, k)) ++ [("eigen_da", eigenDA)])

end CommitmentKind

end ChallengeGame
