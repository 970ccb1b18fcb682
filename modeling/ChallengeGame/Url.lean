import ChallengeGame.Url.Host

/-!
# Addresses of resources

An absolute address is a scheme, a colon and what the scheme asks for: the schemes of the
web want a host after any slashes, a file may have one, and any other scheme has one if two
slashes announce it. Path, query and fragment may be anything.
-/

namespace ChallengeGame.Url

inductive Scheme where
  /-- always followed by a host -/
  | web
  | file
  | other
deriving DecidableEq

def Scheme.ofName (name : String) : Scheme :=
  if ["http", "https", "ws", "wss", "ftp"].contains name then web
  else if name = "file" then file
  else other

/-- The scheme of an address, and what follows the colon. -/
def scheme? (text : List Char) : Option (Scheme × List Char) :=
  let name := text.takeWhile (· != ':')
  match text.drop name.length with
  | ':' :: rest =>
    if name.head?.any Char.isAlpha &&
        name.all fun c => c.isAlphanum || c = '+' || c = '-' || c = '.' then
      some (Scheme.ofName (String.ofList (name.map Char.toLower)), rest)
    else none
  | _ => none

def isSlash (c : Char) : Bool := c = '/' || c = '\\'

/-- Whether a character ends the part with the host. A backslash is a slash in known schemes. -/
def endsAuthority (known : Bool) (c : Char) : Bool :=
  c = '/' || c = '?' || c = '#' || (known && c = '\\')

/-- The host, and what follows it from the colon on. A colon in brackets is of the host. -/
def cutHost (inside : Bool) : List Char → List Char × List Char
  | [] => ([], [])
  | c :: rest =>
    if c = ':' && !inside then ([], c :: rest)
    else
      let (host, port) := cutHost (if c = '[' then true else if c = ']' then false else inside) rest
      (c :: host, port)

def isPort : List Char → Bool
  | [] => true
  | _ :: port =>
    let digits := port.takeWhile Char.isDigit
    let rest := port.drop digits.length
    (digits.isEmpty || (Decimal.read digits).any (· < 65536)) &&
      (rest.isEmpty || rest.head? = some '\\')

/-- Whether there may be no host behind a user. A colon alone names nobody, and an at sign
with nothing before it has to end the address. -/
def needsNoHost (user? : Option (List Char)) (endsAddress : Bool) : Bool :=
  match user? with
  | none => true
  | some [] => endsAddress
  | some user => user == [':']

/-- Whether a text starts with a host of its kind, after what a user is called by. -/
def startsWithHost (known : Bool) (text : List Char) : Bool :=
  let authority := text.takeWhile (!endsAuthority known ·)
  let cut? := Text.splitLast? '@' authority
  let (host, port) := cutHost false ((cut?.map (·.2)).getD authority)
  if known then !host.isEmpty && Host.isKnown host && isPort port
  else if host.isEmpty then
    port.isEmpty && needsNoHost (cut?.map (·.1)) (authority.length == text.length)
  else Host.isOpaque host && isPort port

def isDriveLetter : List Char → Bool
  | [letter, mark] => letter.isAlpha && (mark = ':' || mark = '|')
  | _ => false

/-- Whether what follows the scheme of a file could name one. -/
def isFilePlace : List Char → Bool
  | first :: second :: rest =>
    let host := rest.takeWhile fun c => !endsAuthority true c
    !(isSlash first && isSlash second) || host.isEmpty || isDriveLetter host || Host.isKnown host
  | _ => true

def hasPlace : Scheme → List Char → Bool
  | .web, rest => startsWithHost true (rest.dropWhile isSlash)
  | .file, rest => isFilePlace rest
  | .other, '/' :: '/' :: rest => startsWithHost false rest
  | .other, _ => true

def isBlank (c : Char) : Bool := c.toNat ≤ 0x20

/-- A text without blanks around it and without tabs and line ends in it. -/
def trim (text : List Char) : List Char :=
  ((text.dropWhile isBlank).reverse.dropWhile isBlank).reverse.filter fun c =>
    c != '\t' && c != '\n' && c != '\r'

def isAbsolute (text : String) : Bool :=
  (scheme? (trim text.toList)).any fun (scheme, rest) => hasPlace scheme rest

end ChallengeGame.Url
