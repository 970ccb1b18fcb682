import ChallengeGame.Challenger
import ChallengeGame.Config
import ChallengeGame.Contract.Registry

/-!
# Setting up a service

The configuration is checked, the contracts are bound, and the two windows are read, in
this order. The first thing that goes wrong is the error, and nothing runs before all of
it went well.
-/

namespace ChallengeGame.Service

open Contract (Registry RegistryError)

inductive Error where
  | config (fault : ConfigError)
  | registry (error : RegistryError)
  | contract (error : ContractError)
  | windowOutOfRange (name : String) (blocks : Word)
  | coordinator (error : Coordinator.Error)
  | alreadyStarted
deriving DecidableEq

namespace Error

def message : Error → String
  | config _ => "invalid configuration"
  | registry _ => "failed to create da challenge contract"
  | contract _ => "failed to read protocol parameters"
  | windowOutOfRange name blocks => name ++ " " ++ toString blocks.toNat ++ " is out of range"
  | coordinator _ => "failed to create actor"
  | alreadyStarted => "challenger service was already started"

def failure (error : Error) : Failure :=
  match error with
  | config fault => ⟨error.message, [fault.message]⟩
  | registry cause => ⟨error.message, cause.failure.chain⟩
  | contract cause => ⟨error.message, cause.failure.chain⟩
  | coordinator cause => ⟨error.message, cause.failure.chain⟩
  | _ => ⟨error.message, []⟩

end Error

/-- What is asked until a service can run: `Binder` is what a registry holds, `Bound` what it
binds. -/
inductive Query (Binder Bound : Type) where
  | bind (query : Registry.Query Binder)
  | challengeWindow (contract : Bound)
  | resolveWindow (contract : Bound)

variable {Binder Bound : Type}

def Query.Answer : Query Binder Bound → Type
  | bind _ => Except ContractError Bound
  | challengeWindow _ => Except ContractError Word
  | resolveWindow _ => Except ContractError Word

abbrev Preparing (Binder Bound : Type) :=
  ExceptT Error (Program (Query Binder Bound) Query.Answer)

structure Setup where
  challenger : Challenger.Setup
  /-- milliseconds between two ticks of the head watch -/
  period : Nat

/-- The kinds of jobs that a configuration asks for. Bonds are only ever locked by
challenges, so without them there is nothing to unlock. -/
def takes (config : Config) : ActionKind → Bool
  | .challenge => config.challenges
  | .resolve => config.resolves
  | .unlock => config.managesBonds && config.challenges
  | .withdraw => config.managesBonds

def check (config : Config) : Preparing Binder Bound Unit :=
  match config.fault? with
  | some fault => throw (.config fault)
  | none => pure ()

def connect (registry : Registry Binder) (config : Config) : Preparing Binder Bound Bound := do
  let connected : Except RegistryError Bound ← ExceptT.lift
    ((registry.connect (config.commitmentType, config.commitmentKind) config.contract).handle
      fun query => Program.query (Query.bind query))
  match connected with
  | .ok contract => pure contract
  | .error error => throw (.registry error)

/-- A window has to fit into 64 bits. -/
def window (name : String) (reply : Except ContractError Word) : Preparing Binder Bound UInt64 :=
  match reply with
  | .error error => throw (.contract error)
  | .ok blocks =>
    if blocks.toNat < UInt64.size then pure (UInt64.ofNat blocks.toNat)
    else throw (.windowOutOfRange name blocks)

def windows (contract : Bound) : Preparing Binder Bound (UInt64 × UInt64) := do
  let challengeWindow ← window "challenge window"
    (← ExceptT.lift (Program.query (Query.challengeWindow contract)))
  let resolveWindow ← window "resolve window"
    (← ExceptT.lift (Program.query (Query.resolveWindow contract)))
  pure (challengeWindow, resolveWindow)

def books (setup : Coordinator.Setup) : Preparing Binder Bound Coordinator.Books :=
  match Coordinator.start setup with
  | .ok books => pure books
  | .error error => throw (.coordinator error)

/-- Everything that has to go well before a service can be started. -/
def prepare (registry : Registry Binder) (account : Address) (hasBlobs : Bool) (config : Config) :
    Preparing Binder Bound (Setup × Coordinator.Books) := do
  check config
  let contract ← connect registry config
  let (challengeWindow, resolveWindow) ← windows contract
  let coordinator : Coordinator.Setup := {
    challengeWindow, resolveWindow
    retryInterval := config.retryInterval
    rollup := config.rollup
    hasBlobs
    takes := takes config }
  let books ← books coordinator
  pure (⟨⟨coordinator, account⟩, config.pollInterval.toNat⟩, books)

end ChallengeGame.Service
