import ChallengeGame.Bytes.Hex

/-!
# Documents

Configurations, node replies and the written forms of the data model share one shape:
scalars, lists and records of named values. A record keeps its fields in the order
they were written, repeated names included, because some readers refuse a repetition
and others let the last one win.
-/

namespace ChallengeGame

inductive Document where
  | null
  | boolean (value : Bool)
  | integer (value : Int)
  /-- a scalar that is no whole number, as it was written -/
  | other (spelling : String)
  | text (value : String)
  | list (items : List Document)
  | record (fields : List (String × Document))
  /-- a text with half a surrogate pair, or a record with such a name: no reader takes it -/
  | broken

namespace Document

def ofNat (value : Nat) : Document := integer value

def quantity (value : Nat) : Document := text (Hex.quantity value)

def bytes (value : Bytes) : Document := text (Hex.encode value)

/-- The last value written under a name. -/
def field? (document : Document) (name : String) : Option Document :=
  match document with
  | record fields => (fields.reverse.find? (·.1 == name)).map (·.2)
  | _ => none

/-- The values of the named fields of a record, or the items of a list in the place
of the fields. Fields under other names are skipped, a repeated name is refused, and so
is an item too many. -/
def fields? (names : List String) : Document → Option (List (Option Document))
  | record fields =>
    names.mapM fun name =>
      match fields.filter (·.1 == name) with
      | [] => some none
      | [(_, value)] => some (some value)
      | _ => none
  | list items =>
    if items.length ≤ names.length then
      some (items.map some ++ List.replicate (names.length - items.length) none)
    else none
  | _ => none

def text? : Document → Option String
  | text value => some value
  | _ => none

def boolean? : Document → Option Bool
  | boolean value => some value
  | _ => none

def list? : Document → Option (List Document)
  | list items => some items
  | _ => none

def uint64? : Document → Option UInt64
  | integer value =>
    if 0 ≤ value ∧ value < UInt64.size then some (UInt64.ofNat value.toNat) else none
  | _ => none

def word? : Document → Option Word
  | text value => Hex.readWord value
  | _ => none

def bytes? : Document → Option Bytes
  | text value => Hex.readBytes value
  | _ => none

def fixed? (size : Nat) : Document → Option (FixedBytes size)
  | text value => Hex.readFixed size value
  | _ => none

/-- Where the same document was written. Some values have a form in one format alone. -/
inductive Format where
  | json
  | toml
deriving DecidableEq

def byte? : Document → Option UInt8
  | integer value => if 0 ≤ value ∧ value < 256 then some (UInt8.ofNat value.toNat) else none
  | _ => none

/-- An address. In TOML it may also be the list of its bytes. -/
def address? (format : Format) (document : Document) : Option Address :=
  match format, document with
  | .toml, list items => (items.mapM byte?).bind (FixedBytes.ofBytes? 20)
  | _, document => document.fixed? 20

/-- What may stand where nothing is to be said. -/
def isVacant : Format → Document → Bool
  | .json, null => true
  | .toml, list [] => true
  | .toml, record [] => true
  | _, _ => false

/-- A value picked from a list of names. The name may also be the single field of a
record that says nothing more. -/
def choice? {α : Type} (format : Format) (names : List (String × α)) : Document → Option α
  | text value => names.lookup value
  | record [(name, value)] => if isVacant format value then names.lookup name else none
  | _ => none

end Document

end ChallengeGame
