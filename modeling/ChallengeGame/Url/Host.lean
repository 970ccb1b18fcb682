import ChallengeGame.Bytes.Utf8
import ChallengeGame.Domain
import ChallengeGame.Url.Ipv4
import ChallengeGame.Url.Ipv6

/-!
# Hosts

A host in brackets is an address of eight words. In an address of a known kind any other
host is a domain, which may be written with escaped bytes and may be an address of four
bytes; elsewhere it is a text that is taken as it is.
-/

namespace ChallengeGame.Url.Host

/-- What stands between brackets, if the host starts with one. A bracket that is not
closed at the end holds nothing that could be an address. -/
def inBrackets? : List Char → Option (List Char)
  | '[' :: rest => some (if rest.getLast? = some ']' then rest.dropLast else [])
  | _ => none

/-- The bytes of a text in which a byte may be written as two digits behind a percent
sign. A percent sign without them stands for itself. -/
def unescape : List Char → Bytes
  | '%' :: high :: low :: rest =>
    match Hex.digitValue? high, Hex.digitValue? low with
    | some h, some l => UInt8.ofNat (16 * h + l) :: unescape rest
    | _, _ => UInt8.ofNat '%'.toNat :: unescape (high :: low :: rest)
  | c :: rest => String.utf8EncodeChar c ++ unescape rest
  | [] => []

/-- Whether a text is a domain with a character in it, or an address if its last label
makes it one. -/
def isDomain (text : List Char) : Bool :=
  ((Utf8.decode? (unescape text)).bind Domain.labels?).any fun labels =>
    labels != [[]] && (!Ipv4.isMeant labels || Ipv4.isAddress labels)

def isKnown (text : List Char) : Bool :=
  match inBrackets? text with
  | some inside => Ipv6.isAddress inside
  | none => isDomain text

/-- Characters that may not stand in a host that is taken as it is. -/
def isRefused (c : Char) : Bool :=
  c.toNat = 0 || " #/:<>?@[\\]^|".toList.contains c

def isOpaque (text : List Char) : Bool :=
  match inBrackets? text with
  | some inside => Ipv6.isAddress inside
  | none => !text.any isRefused

end ChallengeGame.Url.Host
