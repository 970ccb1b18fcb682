import ChallengeGame.Document.Json
import ChallengeGame.Challenge.Notation
import ChallengeGame.Failure

/-!
# Values in scripts

A script is a document that says what to rehearse, and so is the report on it. Amounts
are texts of decimal digits, counts are numbers, and bytes are hex digits, possibly of a
piece that is repeated. What is missing reads as empty, as false or as nothing.
-/

namespace ChallengeGame.Script

/-! ## Reading -/

abbrev Read := Except String

def need {α : Type} (what : String) : Option α → Read α
  | some value => .ok value
  | none => .error ("expected " ++ what)

def present (document : Document) (name : String) : Option Document :=
  match document.field? name with
  | some .null => none
  | found => found

def get (document : Document) (name : String) : Read Document :=
  need name (present document name)

def asText (document : Document) : Read String := need "text" document.text?

def asNatural (document : Document) : Read Nat := do
  need "digits" (Decimal.read (← asText document).toList)

def asCount (name : String) (document : Document) : Read Nat :=
  match document.uint64? with
  | some value => .ok value.toNat
  | none => .error (name ++ " is not a count")

/-- How many of something. The digits of a number are no count. -/
def count (document : Document) (name : String) : Read Nat :=
  asCount name ((document.field? name).getD .null)

def asUInt64 (document : Document) : Read UInt64 := do
  let value ← asNatural document
  if value < UInt64.size then .ok (UInt64.ofNat value) else .error "number too large"

def asWord (document : Document) : Read Word := do
  let value ← asNatural document
  if value < Word.size then .ok (BitVec.ofNat 256 value) else .error "number too large"

def asBytes (document : Document) : Read Bytes := do
  match document with
  | .text _ => need "bytes" document.bytes?
  | _ =>
    let piece ← need "bytes" (← get document "rep").bytes?
    .ok (List.replicate (← count document "n") piece).flatten

def asFixed (size : Nat) (document : Document) : Read (FixedBytes size) := do
  need "bytes of fixed length" (FixedBytes.ofBytes? size (← asBytes document))

def asAddress (document : Document) : Read Address := asFixed 20 document

def asHash (document : Document) : Read Hash := asFixed 32 document

def asCommitment (document : Document) : Read Commitment := do
  match Commitment.decode (← asBytes document) with
  | .ok commitment => .ok commitment
  | .error _ => .error "expected a commitment"

def text (document : Document) (name : String) : Read String := do asText (← get document name)

def uint64 (document : Document) (name : String) : Read UInt64 := do asUInt64 (← get document name)

def word (document : Document) (name : String) : Read Word := do asWord (← get document name)

def natural (document : Document) (name : String) : Read Nat := do asNatural (← get document name)

def bytes (document : Document) (name : String) : Read Bytes := do asBytes (← get document name)

def address (document : Document) (name : String) : Read Address := do asAddress (← get document name)

def hash (document : Document) (name : String) : Read Hash := do asHash (← get document name)

def commitment (document : Document) (name : String) : Read Commitment := do
  asCommitment (← get document name)

def optional {α : Type} (read : Document → Read α) (document : Document) (name : String) :
    Read (Option α) :=
  match present document name with
  | some value => do .ok (some (← read value))
  | none => .ok none

def flag (document : Document) (name : String) : Read Bool :=
  match present document name with
  | some value => need "boolean" value.boolean?
  | none => .ok false

def list {α : Type} (read : Document → Read α) (document : Document) (name : String) :
    Read (List α) :=
  match present document name with
  | some value => do (← need "list" value.list?).mapM read
  | none => .ok []

def asBlockRef (document : Document) : Read BlockRef := do
  .ok {
    hash := ← hash document "hash"
    number := ← uint64 document "number"
    parent := (← optional asHash document "parent").getD (FixedBytes.zero 32)
    time := ← uint64 document "time" }

def posting (document : Document) : Read Posting := do
  .ok ⟨← word document "block", ← bytes document "commitment"⟩

/-- Runs the steps of a request one after the other and lists what each answers. -/
def runSteps {σ : Type} (input : Document) (start : σ) (step : σ → Document → Read (Document × σ)) :
    Read (List Document × σ) := do
  let steps ← list Except.ok input "steps"
  let (answers, state) ← steps.foldlM (fun (done : List Document × σ) item => do
    let (answer, state) ← step done.2 item
    .ok (answer :: done.1, state)) ([], start)
  .ok (answers.reverse, state)

def asKind (document : Document) : Read ActionKind := do
  let name ← asText document
  need "kind" (ActionKind.all.find? (·.name == name))

/-! ## Writing -/

def number (value : Nat) : Document := .text (toString value)

def hex (value : Bytes) : Document := .text (Hex.encode value)

def fixed {size : Nat} (value : FixedBytes size) : Document := hex value.bytes

def postingOut (posting : Posting) : Document :=
  .list [number posting.block.toNat, hex posting.commitment]

def failed (kind message : String) (causes : List String) : Document :=
  .record ([("error", .text kind), ("message", .text message)] ++
    if causes.isEmpty then [] else [("causes", .list (causes.map .text))])

def orNull {α : Type} (write : α → Document) : Option α → Document
  | some value => write value
  | none => .null

def failureOut (kind : String) (failure : Failure) : Document :=
  failed kind failure.text failure.causes

abbrev Field := String × Document

/-- A field that is left out while its list is empty. -/
def listed (name : String) (entries : List Document) : List Field :=
  if entries.isEmpty then [] else [(name, .list entries)]

end ChallengeGame.Script
