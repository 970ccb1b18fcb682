import ChallengeGame.Decimal
import ChallengeGame.Document

/-!
# JSON

A document is written as a list of tokens and the tokens as characters. Reading goes
the same way back: a character machine cuts the text into tokens, a stack machine
builds the document. A text in which half of a surrogate pair stands alone is no string,
and a record with such a name is broken as well: both may only stand where no reader
looks. White space between tokens means nothing, anything else left over is refused.
-/

namespace ChallengeGame.Json

inductive Token where
  | listOpen
  | listClose
  | recordOpen
  | recordClose
  | comma
  | colon
  /-- nothing if half of a surrogate pair stands alone in it -/
  | text (value? : Option String)
  | scalar (value : Document)

/-! ## Words: everything but texts and punctuation -/

def skipDigits (text : List Char) : List Char :=
  text.dropWhile Char.isDigit

/-- What follows at least one digit. -/
def digitRun? : List Char → Option (List Char)
  | c :: rest => if c.isDigit then some (skipDigits rest) else none
  | [] => none

/-- What follows the whole part of a number: a zero, or digits that do not start with one. -/
def whole? : List Char → Option (List Char)
  | '0' :: rest => some rest
  | text => digitRun? text

def exponent? : List Char → Option (List Char)
  | '+' :: rest => digitRun? rest
  | '-' :: rest => digitRun? rest
  | text => digitRun? text

/-- Whether the text is a fraction and an exponent, either of which may be missing. -/
def isTail : List Char → Bool
  | '.' :: rest =>
    match digitRun? rest with
    | some [] => true
    | some ('e' :: rest) => exponent? rest == some []
    | some ('E' :: rest) => exponent? rest == some []
    | _ => false
  | 'e' :: rest => exponent? rest == some []
  | 'E' :: rest => exponent? rest == some []
  | _ => false

/-- A number without its sign: its value if it is whole, nothing if it is another number. -/
def magnitude? (word : List Char) : Option (Option Nat) :=
  match whole? word with
  | some [] => (Decimal.read word).map some
  | some tail => if isTail tail then some none else none
  | none => none

/-- Negative zero is no whole number. -/
def number? (word : List Char) : Option Document :=
  match word with
  | '-' :: rest =>
    match magnitude? rest with
    | some (some (value + 1)) => some (.integer (-(value + 1 : Int)))
    | some _ => some (.other (String.ofList word))
    | none => none
  | _ =>
    match magnitude? word with
    | some (some value) => some (.integer value)
    | some none => some (.other (String.ofList word))
    | none => none

def word? (word : List Char) : Option Document :=
  if word = "null".toList then some .null
  else if word = "true".toList then some (.boolean true)
  else if word = "false".toList then some (.boolean false)
  else number? word

/-! ## From characters to tokens -/

/-- What was read of a text, last character first. Half of a surrogate pair that stands
alone is no character. -/
abbrev Written := List (Option Char)

def Written.text? (written : Written) : Option String :=
  (written.reverse.mapM id).map String.ofList

/-- Where the machine stands. What was read is kept last character first. -/
inductive Mode where
  | between
  | word (read : List Char)
  | text (read : Written)
  | escape (read : Written)
  /-- four digits are owed; a high half of a surrogate pair may stand before them -/
  | unicode (read : Written) (high : Option Nat) (digits : List Nat)
  /-- a low half may follow -/
  | high (read : Written) (half : Nat)
  | highEscape (read : Written) (half : Nat)

def isBlank (c : Char) : Bool :=
  c = ' ' || c = '\t' || c = '\n' || c = '\r'

def punctuation? : Char → Option Token
  | '[' => some .listOpen
  | ']' => some .listClose
  | '{' => some .recordOpen
  | '}' => some .recordClose
  | ',' => some .comma
  | ':' => some .colon
  | _ => none

def start (c : Char) : List Token × Mode :=
  if isBlank c then ([], .between)
  else if c = '"' then ([], .text [])
  else match punctuation? c with
    | some token => ([token], .between)
    | none => ([], .word [c])

def endsWord (c : Char) : Bool :=
  isBlank c || c = '"' || (punctuation? c).isSome

def escape? : Char → Option Char
  | '"' => some '"'
  | '\\' => some '\\'
  | '/' => some '/'
  | 'b' => some '\x08'
  | 'f' => some '\x0c'
  | 'n' => some '\n'
  | 'r' => some '\r'
  | 't' => some '\t'
  | _ => none

/-- The text after a unit of sixteen bits, behind the high half of a pair if one is open. -/
def unit (read : Written) (high : Option Nat) (value : Nat) : Mode :=
  let isHigh := 0xD800 ≤ value ∧ value < 0xDC00
  let isLow := 0xDC00 ≤ value ∧ value < 0xE000
  match high with
  | some half =>
    if isLow then
      .text (some (Char.ofNat (0x10000 + (half - 0xD800) * 0x400 + (value - 0xDC00))) :: read)
    else if isHigh then .high (none :: read) value
    else .text (some (Char.ofNat value) :: none :: read)
  | none =>
    if isHigh then .high read value
    else if isLow then .text (none :: read)
    else .text (some (Char.ofNat value) :: read)

def inText (read : Written) (c : Char) : Option (List Token × Mode) :=
  if c = '"' then some ([.text read.text?], .between)
  else if c = '\\' then some ([], .escape read)
  else if c.toNat < 0x20 then none
  else some ([], .text (some c :: read))

def inEscape (read : Written) (c : Char) : Option (List Token × Mode) :=
  if c = 'u' then some ([], .unicode read none [])
  else (escape? c).map fun meant => ([], .text (some meant :: read))

def step (mode : Mode) (c : Char) : Option (List Token × Mode) :=
  match mode with
  | .between => some (start c)
  | .word read =>
    if endsWord c then
      (word? read.reverse).map fun value =>
        let next := start c
        (.scalar value :: next.1, next.2)
    else some ([], .word (c :: read))
  | .text read => inText read c
  | .escape read => inEscape read c
  | .unicode read high digits =>
    (Hex.digitValue? c).map fun digit =>
      match digits with
      | [a, b, d] => ([], unit read high (((a * 16 + b) * 16 + d) * 16 + digit))
      | _ => ([], .unicode read high (digits ++ [digit]))
  | .high read half =>
    if c = '\\' then some ([], .highEscape read half)
    else inText (none :: read) c
  | .highEscape read half =>
    if c = 'u' then some ([], .unicode read (some half) [])
    else inEscape (none :: read) c

def tokensFrom : Mode → List Char → Option (List Token)
  | .between, [] => some []
  | .word read, [] => (word? read.reverse).map fun value => [.scalar value]
  | _, [] => none
  | mode, c :: rest =>
    match step mode c with
    | none => none
    | some (tokens, next) => (tokensFrom next rest).map (tokens ++ ·)

def tokens? (text : List Char) : Option (List Token) :=
  tokensFrom .between text

/-! ## From tokens to documents -/

/-- The fields of a record, each with its name if that is a string. -/
abbrev Fields := List (Option String × Document)

def Fields.record (fields : Fields) : Document :=
  match fields.reverse.mapM fun field => field.1.map (·, field.2) with
  | some named => .record named
  | none => .broken

/-- A list or record whose end is still to come. Items and fields are kept last first. -/
inductive Frame where
  | list (items : List Document)
  | record (fields : Fields) (name? : Option String)

inductive Progress where
  /-- a value has to follow -/
  | value (outer : List Frame)
  /-- a list was opened -/
  | opened (outer : List Frame)
  /-- a record was opened -/
  | entered (outer : List Frame)
  /-- a name has to follow -/
  | name (fields : Fields) (outer : List Frame)
  /-- a colon has to follow -/
  | named (fields : Fields) (name? : Option String) (outer : List Frame)
  | complete (value : Document) (outer : List Frame)

def beginValue (token : Token) (outer : List Frame) : Option Progress :=
  match token with
  | .listOpen => some (.opened outer)
  | .recordOpen => some (.entered outer)
  | .text value? => some (.complete (value?.elim .broken .text) outer)
  | .scalar value => some (.complete value outer)
  | _ => none

def push (progress : Progress) (token : Token) : Option Progress :=
  match progress, token with
  | .value outer, token => beginValue token outer
  | .opened outer, .listClose => some (.complete (.list []) outer)
  | .opened outer, token => beginValue token (.list [] :: outer)
  | .entered outer, .recordClose => some (.complete (.record []) outer)
  | .entered outer, .text name? => some (.named [] name? outer)
  | .name fields outer, .text name? => some (.named fields name? outer)
  | .named fields name? outer, .colon => some (.value (.record fields name? :: outer))
  | .complete value (.list items :: outer), .comma => some (.value (.list (value :: items) :: outer))
  | .complete value (.list items :: outer), .listClose =>
    some (.complete (.list (value :: items).reverse) outer)
  | .complete value (.record fields name? :: outer), .comma =>
    some (.name ((name?, value) :: fields) outer)
  | .complete value (.record fields name? :: outer), .recordClose =>
    some (.complete (Fields.record ((name?, value) :: fields)) outer)
  | _, _ => none

def Progress.result? : Progress → Option Document
  | .complete document [] => some document
  | _ => none

def ofTokens? (tokens : List Token) : Option Document :=
  (tokens.foldlM push (.value [])).bind Progress.result?

def parse (text : String) : Option Document :=
  (tokens? text.toList).bind ofTokens?

/-! ## Writing -/

mutual

def tokens : Document → List Token
  | .text value => [.text (some value)]
  | .broken => [.text none]
  | .list items => .listOpen :: itemTokens items ++ [.listClose]
  | .record fields => .recordOpen :: fieldTokens fields ++ [.recordClose]
  | value => [.scalar value]

def itemTokens : List Document → List Token
  | [] => []
  | [item] => tokens item
  | item :: rest => tokens item ++ .comma :: itemTokens rest

def fieldTokens : List (String × Document) → List Token
  | [] => []
  | [field] => namedTokens field
  | field :: rest => namedTokens field ++ .comma :: fieldTokens rest

def namedTokens : String × Document → List Token
  | (name, value) => .text (some name) :: .colon :: tokens value

end

def escapeChar (c : Char) : List Char :=
  if c = '"' then ['\\', '"']
  else if c = '\\' then ['\\', '\\']
  else if c = '\x08' then ['\\', 'b']
  else if c = '\x0c' then ['\\', 'f']
  else if c = '\n' then ['\\', 'n']
  else if c = '\r' then ['\\', 'r']
  else if c = '\t' then ['\\', 't']
  else if c.toNat < 0x20 then
    ['\\', 'u', '0', '0', Hex.digit (c.toNat / 16), Hex.digit (c.toNat % 16)]
  else [c]

def integerChars (value : Int) : List Char :=
  if value < 0 then '-' :: Decimal.digits value.natAbs else Decimal.digits value.natAbs

def scalarChars : Document → List Char
  | .boolean true => "true".toList
  | .boolean false => "false".toList
  | .integer value => integerChars value
  | .other spelling => spelling.toList
  | _ => "null".toList

def Token.chars : Token → List Char
  | .listOpen => ['[']
  | .listClose => [']']
  | .recordOpen => ['{']
  | .recordClose => ['}']
  | .comma => [',']
  | .colon => [':']
  | .text (some value) => '"' :: value.toList.flatMap escapeChar ++ ['"']
  | .text none => "\"\\ud800\"".toList
  | .scalar value => scalarChars value

/-- The text of a document without blanks. -/
def render (document : Document) : String :=
  String.ofList ((tokens document).flatMap Token.chars)

end ChallengeGame.Json
