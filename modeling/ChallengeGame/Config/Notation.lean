import ChallengeGame.Bytes.Utf8
import ChallengeGame.Challenge.Notation
import ChallengeGame.Config
import ChallengeGame.Document.Toml

/-!
# Documents of configurations

Six fields have to be there, the others have defaults. Only the activation time and the
sender may be null. A configuration file is TOML in UTF-8.
-/

namespace ChallengeGame.Config

def fieldNames : List String := [
  "l1_rpc_url", "da_challenge_address", "batch_inbox_address", "batcher_addresses",
  "ecotone_time", "commitment_type", "commitment_kind", "challenge_enabled", "resolve_enabled",
  "bond_management_enabled", "poll_interval_ms", "retry_interval_blocks", "num_confirmations",
  "sender_address"]

def orDefault {α : Type} (default : α) (read : Document → Option α) : Option Document → Option α
  | none => some default
  | some value => read value

def orNothing {α : Type} (read : Document → Option α) : Option Document → Option (Option α)
  | none => some none
  | some .null => some none
  | some value => (read value).map some

def defaultPollInterval : UInt64 := 12000

def defaultRetryInterval : UInt64 := 16

def ofDocument? (format : Document.Format) (document : Document) : Option Config := do
  match ← document.fields? fieldNames with
  | [some rpcUrl, some contract, some inbox, some batchers, ecotoneTime, some type, kind,
      challenges, resolves, managesBonds, pollInterval, retryInterval, confirmations, sender] =>
    some {
      rpcUrl := ← rpcUrl.text?
      contract := ← contract.address? format
      rollup := {
        inbox := ← inbox.address? format
        batchers := ← (← batchers.list?).mapM (Document.address? format)
        ecotoneTime? := ← orNothing Document.uint64? ecotoneTime }
      commitmentType := ← CommitmentType.ofDocument? format type
      commitmentKind := ← orDefault .undefined (CommitmentKind.ofDocument? format) kind
      challenges := ← orDefault true Document.boolean? challenges
      resolves := ← orDefault true Document.boolean? resolves
      managesBonds := ← orDefault true Document.boolean? managesBonds
      pollInterval := ← orDefault defaultPollInterval Document.uint64? pollInterval
      retryInterval := ← orDefault defaultRetryInterval Document.uint64? retryInterval
      confirmations := ← orDefault 1 Document.uint64? confirmations
      sender? := ← orNothing (Document.address? format) sender }
  | _ => none

inductive FileError where
  | missing
  | unreadable
  | malformed
deriving DecidableEq

/-- The configuration in a file, given its bytes if it is there. -/
def ofFile : Option Bytes → Except FileError Config
  | none => .error .missing
  | some bytes =>
    match Utf8.decode? bytes with
    | none => .error .unreadable
    | some text =>
      match (Toml.parse text).bind (ofDocument? .toml) with
      | none => .error .malformed
      | some config => .ok config

end ChallengeGame.Config
