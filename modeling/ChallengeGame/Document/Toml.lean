import ChallengeGame.Document.Toml.Quoted
import ChallengeGame.Document.Toml.Tree

/-!
# TOML

A text is a list of lines: pairs of a key and a value, and headers that say which
table the following pairs belong to. Lists and tables inside values may be nested so
deep and no deeper.
-/

namespace ChallengeGame.Toml

/-- Nesting of values and length of keys stay below this. -/
def nestingLimit : Nat := 80

def skipBlanks (text : List Char) : List Char := text.dropWhile isBlank

/-- What follows blanks, line ends and comments, which end with their line. -/
def skipLines : (inComment : Bool) → List Char → Option (List Char)
  | _, '\n' :: rest => skipLines false rest
  | _, '\r' :: '\n' :: rest => skipLines false rest
  | true, c :: rest => if isPrintable c then skipLines true rest else none
  | false, '#' :: rest => skipLines true rest
  | false, c :: rest => if isBlank c then skipLines false rest else some (c :: rest)
  | _, [] => some []

/-! ## Keys -/

def isBare (c : Char) : Bool :=
  c.isAlphanum || c == '_' || c == '-'

def simpleKey? (text : List Char) : Reads String :=
  match lineText? text with
  | some (name, rest) => some (String.ofList name, rest)
  | none =>
    let name := text.takeWhile isBare
    if name.isEmpty then none else some (String.ofList name, text.dropWhile isBare)

/-- Names with dots between them and blanks around them. -/
def keyFrom : (fuel : Nat) → List Char → Reads (List String)
  | 0, _ => none
  | fuel + 1, text =>
    (simpleKey? (skipBlanks text)).bind fun (name, rest) =>
      match skipBlanks rest with
      | '.' :: rest => (keyFrom fuel rest).map fun (names, rest) => (name :: names, rest)
      | rest => some ([name], rest)

/-- The names before the last one and the last one. -/
def key? (text : List Char) : Reads (List String × String) :=
  (keyFrom (nestingLimit - 1) text).bind fun (names, rest) =>
    names.getLast?.map fun last => ((names.dropLast, last), rest)

/-! ## Values -/

mutual

/-- A value. The fuel bounds the steps and is never used up by a text shorter than it. -/
def value? : (fuel nesting : Nat) → List Char → Reads Document
  | 0, _, _ => none
  | fuel + 1, nesting, text =>
    match text with
    | '[' :: rest =>
      if nesting + 1 < nestingLimit then
        (items? fuel (nesting + 1) rest).map fun (items, rest) => (.list items, rest)
      else none
    | '{' :: rest =>
      if nesting + 1 < nestingLimit then
        match skipBlanks rest with
        | '}' :: rest => some (.record [], rest)
        | rest => (pairs? fuel (nesting + 1) [] rest).map fun (items, rest) =>
            ((Item.table false false items).document, rest)
      else none
    | '"' :: _ => (text? text).map fun (chars, rest) => (.text (String.ofList chars), rest)
    | '\'' :: _ => (text? text).map fun (chars, rest) => (.text (String.ofList chars), rest)
    | _ => scalar? text

def items? : (fuel nesting : Nat) → List Char → Reads (List Document)
  | 0, _, _ => none
  | fuel + 1, nesting, text =>
    match skipLines false text with
    | some (']' :: rest) => some ([], rest)
    | some text =>
      (value? fuel nesting text).bind fun (value, rest) =>
        match skipLines false rest with
        | some (',' :: rest) =>
          (items? fuel nesting rest).map fun (items, rest) => (value :: items, rest)
        | some (']' :: rest) => some ([value], rest)
        | _ => none
    | none => none

def pairs? : (fuel nesting : Nat) → Items → List Char → Reads Items
  | 0, _, _, _ => none
  | fuel + 1, nesting, items, text =>
    (key? text).bind fun ((path, name), rest) =>
      match rest with
      | '=' :: rest =>
        (value? fuel nesting (skipBlanks rest)).bind fun (value, rest) =>
          (addPair path name value items).bind fun items =>
            match skipBlanks rest with
            | ',' :: rest => pairs? fuel nesting items rest
            | '}' :: rest => some (items, rest)
            | _ => none
      | _ => none

end

/-! ## Lines -/

/-- The table that following pairs belong to, and the whole so far. -/
structure Progress where
  table : List String
  items : Items

def lineEnd? : List Char → Option (List Char)
  | '\n' :: rest => some rest
  | '\r' :: '\n' :: rest => some rest
  | [] => some []
  | _ => none

def restOfLine? (text : List Char) : Option (List Char) :=
  match skipBlanks text with
  | '#' :: rest => lineEnd? (rest.dropWhile isPrintable)
  | rest => lineEnd? rest

def line? (progress : Progress) (text : List Char) : Reads Progress :=
  match text with
  | '[' :: '[' :: rest =>
    (key? rest).bind fun ((path, name), rest) =>
      match rest with
      | ']' :: ']' :: rest =>
        (openElement path name progress.items).map fun items => (⟨path ++ [name], items⟩, rest)
      | _ => none
  | '[' :: rest =>
    (key? rest).bind fun ((path, name), rest) =>
      match rest with
      | ']' :: rest =>
        (openTable path name progress.items).map fun items => (⟨path ++ [name], items⟩, rest)
      | _ => none
  | _ =>
    (key? text).bind fun ((path, name), rest) =>
      match rest with
      | '=' :: rest =>
        (value? (2 * rest.length + 2) 0 (skipBlanks rest)).bind fun (value, rest) =>
          (alter false (fun _ items => addPair path name value items) progress.table false
            progress.items).map fun items => ({ progress with items }, rest)
      | _ => none

def linesFrom : (fuel : Nat) → Progress → List Char → Option Items
  | 0, _, _ => none
  | fuel + 1, progress, text =>
    match skipLines false text with
    | none => none
    | some [] => some progress.items
    | some text =>
      (line? progress text).bind fun (progress, rest) =>
        (restOfLine? rest).bind fun rest => linesFrom fuel progress rest

/-- A byte order mark in front is skipped. -/
def dropMark : List Char → List Char
  | '\uFEFF' :: rest => rest
  | text => text

def parse (text : List Char) : Option Document :=
  (linesFrom (text.length + 1) ⟨[], []⟩ (dropMark text)).map fun items => .record (itemFields items)

end ChallengeGame.Toml
