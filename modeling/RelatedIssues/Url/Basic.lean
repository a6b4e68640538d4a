import RelatedIssues.Text.Quoted
import RelatedIssues.Url.Percent

namespace RelatedIssues

structure Url where
  scheme   : List Char
  user     : List Char := []
  host     : List Char := []
  port     : Option Int := none
  path     : List Char := []
  query    : Option (List Char) := none
  fragment : Option (List Char) := none
  deriving DecidableEq, Repr

namespace Url

inductive Fault where
  | tooLong
  | partTooLong (part : String)
  | control (c : Char) (place : Nat)
  | address4 (host : List Char)
  | address6 (host : List Char)
  | foreignHost (host : List Char)
  | port (text : List Char)
  | twoSlashes
  | colon
  deriving DecidableEq, Repr

namespace Fault

def shown (text : List Char) : String :=
  .ofList (Text.quoted text)

def message : Fault → String
  | tooLong => "URL too long"
  | partTooLong part => "URL component '" ++ part ++ "' too long"
  | control c place =>
    "Invalid non-printable ASCII character in URL, " ++ shown [c] ++ " at position " ++ toString place ++
      "."
  | address4 host => "Invalid IPv4 address: " ++ shown host
  | address6 host => "Invalid IPv6 address: " ++ shown host
  | foreignHost host => "Invalid IDNA hostname: " ++ shown host
  | port text => "Invalid port: " ++ shown text
  | twoSlashes => "Relative URLs cannot have a path starting with '//'"
  | colon => "Relative URLs cannot have a path starting with ':'"

end Fault

-- The host as it is written. One with colons stands between brackets.
def writtenHost (u : Url) : List Char :=
  if u.host.contains ':' then '[' :: u.host ++ [']'] else u.host

def place (u : Url) : List Char :=
  u.writtenHost ++ (u.port.elim [] fun port => ':' :: (toString port).toList)

def authority (u : Url) : List Char :=
  (if u.user = [] then [] else u.user ++ ['@']) ++ u.place

def text (u : Url) : String :=
  .ofList <|
    (if u.scheme = [] then [] else u.scheme ++ [':']) ++
      (if u.authority = [] then [] else '/' :: '/' :: u.authority) ++ u.path ++
      u.query.elim [] ('?' :: ·) ++ u.fragment.elim [] ('#' :: ·)

def plainText (u : Url) : String :=
  if u.text.toList.getLast? = some '#' then .ofList u.text.toList.dropLast else u.text

def withoutQuery (u : Url) : Url :=
  { u with query := none }

-- The name and the password of the user, around the first colon.
def account? (u : Url) : Option (List Char × List Char) :=
  let name := unescape (u.user.takeWhile (· ≠ ':'))
  let password := unescape ((u.user.dropWhile (· ≠ ':')).drop 1)
  if name = [] ∧ password = [] then none else some (name, password)

def beforeLastHash (text : List Char) : List Char :=
  if text.contains '#' then ((text.reverse.dropWhile (· ≠ '#')).drop 1).reverse else text

-- Whether an address says of which type it is: its text up to the last hash sign has a colon before any
-- slash, and something before the colon.
def isTyped (u : Url) : Bool :=
  let text := beforeLastHash u.text.toList
  let type := text.takeWhile fun c => c ≠ '/' && c ≠ ':'
  type ≠ [] && (text.drop type.length).head? = some ':'

end Url
end RelatedIssues
