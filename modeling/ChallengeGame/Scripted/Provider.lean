import ChallengeGame.Coordinator

/-!
# A provider that follows a script

It knows inputs and statuses as told. An input it was not told about is missing and not
challenged yet. Attempts to move it on succeed unless a refusal is queued.
-/

namespace ChallengeGame.Scripted

structure Provider where
  inputs : List (Commitment × Except ProviderError Bytes)
  statuses : List (Commitment × ChallengeStatus)
  /-- how the next attempts to move on are refused -/
  refusals : List ProviderError
  /-- where it was to move since the last report, last first -/
  advanced : List BlockId
  /-- what was asked for since the last report, last first -/
  fetched : List (Commitment × BlockNumber)

namespace Provider

def new : Provider := ⟨[], [], [], [], []⟩

def setInput (commitment : Commitment) (input : Except ProviderError Bytes) (provider : Provider) :
    Provider :=
  { provider with inputs := (commitment, input) :: provider.inputs }

def setStatus (commitment : Commitment) (status : ChallengeStatus) (provider : Provider) : Provider :=
  { provider with statuses := (commitment, status) :: provider.statuses }

def refuse (error : ProviderError) (provider : Provider) : Provider :=
  { provider with refusals := provider.refusals ++ [error] }

/-- The refusal of a provider that is out of order. -/
def stuck : ProviderError := .other ⟨"origin advance failed", []⟩

def advance (head : BlockId) (provider : Provider) : Except ProviderError Unit × Provider :=
  let noted := { provider with advanced := head :: provider.advanced }
  match provider.refusals with
  | [] => (.ok (), noted)
  | refusal :: rest => (.error refusal, { noted with refusals := rest })

def input (commitment : Commitment) (block : BlockNumber) (provider : Provider) :
    Except ProviderError Bytes × Provider :=
  ((provider.inputs.lookup commitment).getD (.error .pendingChallenge),
    { provider with fetched := (commitment, block) :: provider.fetched })

def status (commitment : Commitment) (provider : Provider) : ChallengeStatus :=
  (provider.statuses.lookup commitment).getD .uninitialized

end Provider

end ChallengeGame.Scripted
