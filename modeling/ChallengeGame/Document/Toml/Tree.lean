import ChallengeGame.Document

/-!
# TOML tables under construction

A table is opened by its header, by keys with dots, or because a table inside it was
opened first. Which of them it was decides what may still be added to it: a table has
at most one header, and keys with dots reach neither into a table with a header nor
into one that only stands around another.
-/

namespace ChallengeGame.Toml

inductive Item where
  | value (document : Document)
  /-- `implicit` until a header opens it, `dotted` if keys with dots opened it -/
  | table (implicit dotted : Bool) (items : List (String × Item))
  /-- a list of tables, last first -/
  | tables (elements : List (List (String × Item)))

abbrev Items := List (String × Item)

mutual

def Item.document : Item → Document
  | .value document => document
  | .table _ _ items => .record (itemFields items)
  | .tables elements => .list (tableDocuments elements).reverse

def itemFields : List (String × Item) → List (String × Document)
  | [] => []
  | field :: rest => itemField field :: itemFields rest

def itemField : String × Item → String × Document
  | (name, item) => (name, item.document)

def tableDocuments : List (List (String × Item)) → List Document
  | [] => []
  | items :: rest => .record (itemFields items) :: tableDocuments rest

end

def Items.put (items : Items) (name : String) (item : Item) : Items :=
  items.filter (·.1 != name) ++ [(name, item)]

/-- Changes the table at the end of a path, opening the tables on the way. The change
sees whether keys with dots opened the table it changes. -/
def alter (byKeys : Bool) (change : Bool → Items → Option Items) :
    List String → Bool → Items → Option Items
  | [], dotted, items => change dotted items
  | name :: path, _, items =>
    match items.lookup name with
    | none => do
      some (items.put name (.table true byKeys (← alter byKeys change path byKeys [])))
    | some (.value _) => none
    | some (.table implicit dotted inner) =>
      if byKeys && !implicit then none
      else do some (items.put name (.table implicit dotted (← alter byKeys change path dotted inner)))
    | some (.tables (last :: before)) => do
      some (items.put name (.tables ((← alter byKeys change path false last) :: before)))
    | some (.tables []) => none

/-- Adds a value under a path of keys, the last of which is new. -/
def addPair (path : List String) (name : String) (value : Document) (items : Items) : Option Items :=
  alter true (fun dotted items =>
    if dotted == path.isEmpty then none
    else match items.lookup name with
      | some _ => none
      | none => some (items.put name (.value value))) path false items

def openTable (path : List String) (name : String) (items : Items) : Option Items :=
  alter false (fun _ items =>
    match items.lookup name with
    | none => some (items.put name (.table false false []))
    | some (.table true false inner) => some (items.put name (.table false false inner))
    | some _ => none) path false items

/-- Opens one more table of a list by its header. -/
def openElement (path : List String) (name : String) (items : Items) : Option Items :=
  alter false (fun _ items =>
    match items.lookup name with
    | none => some (items.put name (.tables [[]]))
    | some (.tables elements) => some (items.put name (.tables ([] :: elements)))
    | some _ => none) path false items

end ChallengeGame.Toml
