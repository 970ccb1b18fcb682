import ChallengeGame.Contract
import ChallengeGame.Program

/-!
# Registry of contract bindings

A table from a commitment type and kind to the way a contract for them is bound. It is
filled once; registering a pair again takes the place of the earlier entry.
-/

namespace ChallengeGame.Contract

abbrev Pair := CommitmentType × CommitmentKind

inductive RegistryError where
  | missingKind
  | unsupported (kind : CommitmentKind)
  | unregistered (type : CommitmentType) (kind : CommitmentKind)
  | contract (address : Address) (error : ContractError)
deriving DecidableEq

namespace RegistryError

def message : RegistryError → String
  | missingKind => "daKind is undefined"
  | unsupported kind => "daKind " ++ kind.name ++ " is currently unsupported"
  | unregistered type kind =>
    "no challenge contract registered for daType " ++ type.name ++ " and daKind " ++ kind.name
  | contract address _ => "failed to bind challenge contract at " ++ Hex.encode address.bytes

def failure (error : RegistryError) : Failure :=
  match error with
  | contract _ cause => ⟨error.message, cause.failure.chain⟩
  | _ => ⟨error.message, []⟩

end RegistryError

structure Registry (Binder : Type) where
  entries : List (Pair × Binder)

namespace Registry

variable {Binder : Type}

def empty : Registry Binder := ⟨[]⟩

def register (registry : Registry Binder) (pair : Pair) (binder : Binder) : Registry Binder :=
  ⟨registry.entries.filter (·.1 ≠ pair) ++ [(pair, binder)]⟩

def find? (registry : Registry Binder) (pair : Pair) : Option Binder :=
  registry.entries.lookup pair

/-- Why nothing is registered for a pair. -/
def absence : Pair → RegistryError
  | (.generic, .undefined) => .missingKind
  | (_, .eigenDA) => .unsupported .eigenDA
  | (type, kind) => .unregistered type kind

def lookup (registry : Registry Binder) (pair : Pair) : Except RegistryError Binder :=
  match registry.find? pair with
  | some binder => .ok binder
  | none => .error (absence pair)

/-- The registry with the one contract version there is a binding for. -/
def standard (binder : Binder) : Registry Binder :=
  empty.register (.keccak256, .undefined) binder

/-! ## Binding -/

structure Query (Binder : Type) where
  binder : Binder
  address : Address

/-- Looks a pair up and has the contract at an address bound. -/
def connect {Bound : Type} (registry : Registry Binder) (pair : Pair) (address : Address) :
    Program (Query Binder) (fun _ => Except ContractError Bound) (Except RegistryError Bound) :=
  match registry.lookup pair with
  | .error error => pure (.error error)
  | .ok binder => do
    let bound ← Program.query ⟨binder, address⟩
    pure (bound.mapError (.contract address))

/-! ## Description -/

def typeTitle : CommitmentType → String
  | .keccak256 => "Keccak256"
  | .generic => "Generic"

def kindTitle : CommitmentKind → String
  | .undefined => "Undefined"
  | .eigenDA => "EigenDA"

def describe (registry : Registry Binder) : String :=
  let pairs := registry.entries.map fun entry =>
    "(" ++ typeTitle entry.1.1 ++ ", " ++ kindTitle entry.1.2 ++ ")"
  "ContractRegistry \x7b entries: [" ++ ", ".intercalate pairs ++ "] \x7d"

end Registry

def contractsDescription : String := "Contracts \x7b .. \x7d"

end ChallengeGame.Contract
