import RelatedIssues.Text.Hex
import RelatedIssues.Text.Utf8

namespace RelatedIssues.Url

def isVisible (c : Char) : Bool :=
  0x21 ≤ c.toNat && c.toNat ≤ 0x7E

def visibleBut (others : String) (c : Char) : Bool :=
  isVisible c && !others.toList.contains c

def inFragment : Char → Bool :=
  visibleBut "\"<>\x60"

def inQuery : Char → Bool :=
  visibleBut "\"#<>"

def inPath : Char → Bool :=
  visibleBut "\"#<>?\x60\x7b\x7d"

def inUser : Char → Bool :=
  visibleBut "\"#<>?\x60\x7b\x7d/;=@[\\]^|"

-- Letters, digits and four marks: they stand for themselves in every part.
def isUnreserved (c : Char) : Bool :=
  c.isAlphanum || c = '-' || c = '.' || c = '_' || c = '~'

def inHost (c : Char) : Bool :=
  isUnreserved c || "!$&'()*+,;=\"\x60\x7b\x7d%|\\".toList.contains c

def capitalDigit (n : Nat) : Char :=
  (Nat.digitChar n).toUpper

def escapeOctet (b : UInt8) : List Char :=
  ['%', capitalDigit (b.toNat / 16), capitalDigit (b.toNat % 16)]

def escapeChar (keep : Char → Bool) (c : Char) : List Char :=
  if keep c then [c] else (String.utf8EncodeChar c).flatMap escapeOctet

-- The text with the octets of all characters escaped that do not stand for themselves.
def escape (keep : Char → Bool) (s : List Char) : List Char :=
  s.flatMap (escapeChar keep)

-- The octet at the start of a text after its percent sign, if two digits follow.
def escaped? : List Char → Option UInt8
  | a :: b :: _ =>
    match Text.hexDigit? a, Text.hexDigit? b with
    | some x, some y => some (.ofNat (x * 16 + y))
    | _, _ => none
  | _ => none

def octetsAfter : (skip : Nat) → List Char → List UInt8
  | _, [] => []
  | skip + 1, _ :: rest => octetsAfter skip rest
  | 0, c :: rest =>
    match if c = '%' then escaped? rest else none with
    | some b => b :: octetsAfter 2 rest
    | none => String.utf8EncodeChar c ++ octetsAfter 0 rest

def unescape (s : List Char) : List Char :=
  Text.ofOctets (octetsAfter 0 s)

end RelatedIssues.Url
