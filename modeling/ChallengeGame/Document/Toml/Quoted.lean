import ChallengeGame.Document.Toml.Scalar

/-!
# TOML texts

Texts stand between quotation marks, where a backslash gives other characters, or
between apostrophes, where everything stands for itself. Tripled marks enclose several
lines.
-/

namespace ChallengeGame.Toml

/-- Tabs and everything that is no control character. -/
def isPrintable (c : Char) : Bool :=
  c == '\t' || (0x20 ≤ c.toNat && c.toNat != 0x7F)

def escape? : Char → Option Char
  | 'b' => some '\x08'
  | 't' => some '\t'
  | 'n' => some '\n'
  | 'f' => some '\x0c'
  | 'r' => some '\r'
  | '"' => some '"'
  | '\\' => some '\\'
  | _ => none

def scalarValue? (digits : List Char) : Option Char :=
  match Hex.readNumber digits with
  | some code => if h : code.isValidChar then some (Char.ofNatAux code h) else none
  | none => none

def prepend (c : Char) (read : Reads (List Char)) : Reads (List Char) :=
  read.map fun found => (c :: found.1, found.2)

/-- The rest of a text after its opening quotation mark. -/
def quoted : List Char → Reads (List Char)
  | '"' :: rest => some ([], rest)
  | '\\' :: 'u' :: a :: b :: c :: d :: rest =>
    (scalarValue? [a, b, c, d]).bind fun char => prepend char (quoted rest)
  | '\\' :: 'U' :: a :: b :: c :: d :: e :: f :: g :: h :: rest =>
    (scalarValue? [a, b, c, d, e, f, g, h]).bind fun char => prepend char (quoted rest)
  | '\\' :: c :: rest => (escape? c).bind fun char => prepend char (quoted rest)
  | c :: rest => if isPrintable c then prepend c (quoted rest) else none
  | [] => none

/-- The rest of a text after its opening apostrophe. -/
def literal : List Char → Reads (List Char)
  | '\'' :: rest => some ([], rest)
  | c :: rest => if isPrintable c then prepend c (literal rest) else none
  | [] => none

def isBlank (c : Char) : Bool := c == ' ' || c == '\t'

def endsLine (text : List Char) : Bool :=
  match text.dropWhile isBlank with
  | '\n' :: _ => true
  | '\r' :: '\n' :: _ => true
  | _ => false

/-- Several lines between quotation marks. After a backslash at the end of a line, blanks
and line ends are skipped. -/
def quotedLines : (skipping : Bool) → List Char → Reads (List Char)
  | _, '"' :: '"' :: '"' :: '"' :: '"' :: rest => some (['"', '"'], rest)
  | _, '"' :: '"' :: '"' :: '"' :: rest => some (['"'], rest)
  | _, '"' :: '"' :: '"' :: rest => some ([], rest)
  | skipping, '\r' :: '\n' :: rest =>
    if skipping then quotedLines true rest else prepend '\n' (quotedLines false rest)
  | skipping, '\n' :: rest =>
    if skipping then quotedLines true rest else prepend '\n' (quotedLines false rest)
  | _, '\\' :: 'u' :: a :: b :: c :: d :: rest =>
    (scalarValue? [a, b, c, d]).bind fun char => prepend char (quotedLines false rest)
  | _, '\\' :: 'U' :: a :: b :: c :: d :: e :: f :: g :: h :: rest =>
    (scalarValue? [a, b, c, d, e, f, g, h]).bind fun char => prepend char (quotedLines false rest)
  | _, '\\' :: c :: rest =>
    if endsLine (c :: rest) then
      if c == '\n' || c == '\r' || isBlank c then quotedLines true rest else none
    else (escape? c).bind fun char => prepend char (quotedLines false rest)
  | skipping, c :: rest =>
    if skipping && isBlank c then quotedLines true rest
    else if isPrintable c then prepend c (quotedLines false rest)
    else none
  | _, [] => none

def literalLines : List Char → Reads (List Char)
  | '\'' :: '\'' :: '\'' :: '\'' :: '\'' :: rest => some (['\'', '\''], rest)
  | '\'' :: '\'' :: '\'' :: '\'' :: rest => some (['\''], rest)
  | '\'' :: '\'' :: '\'' :: rest => some ([], rest)
  | '\r' :: '\n' :: rest => prepend '\n' (literalLines rest)
  | '\n' :: rest => prepend '\n' (literalLines rest)
  | c :: rest => if isPrintable c then prepend c (literalLines rest) else none
  | [] => none

/-- A line end right after the opening marks is not part of the text. -/
def dropLineEnd : List Char → List Char
  | '\n' :: rest => rest
  | '\r' :: '\n' :: rest => rest
  | text => text

def lineText? : List Char → Reads (List Char)
  | '"' :: rest => quoted rest
  | '\'' :: rest => literal rest
  | _ => none

def text? : List Char → Reads (List Char)
  | '"' :: '"' :: '"' :: rest => quotedLines false (dropLineEnd rest)
  | '\'' :: '\'' :: '\'' :: rest => literalLines (dropLineEnd rest)
  | text => lineText? text

end ChallengeGame.Toml
