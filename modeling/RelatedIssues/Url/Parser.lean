import RelatedIssues.Url.Host
import RelatedIssues.Url.Query

namespace RelatedIssues.Url

def maxLength : Nat := 65536

-- The steps of a path, in reverse, after one more. A step up takes the step before it back, but not the
-- empty one at the start.
def walk (taken : List (List Char)) (step : List Char) : List (List Char) :=
  if step = ['.'] then taken
  else if step = ['.', '.'] then if taken = [[]] then taken else taken.drop 1
  else step :: taken

def straighten (path : List Char) : List Char :=
  let steps := path.splitOnP (· = '/')
  if steps.contains ['.'] ∨ steps.contains ['.', '.'] then
    ['/'].intercalate (steps.foldl walk []).reverse
  else path

-- Whether an address says where it leads: of which scheme it is, or who asks and where.
def isRooted (u : Url) : Bool :=
  u.scheme ≠ [] || u.authority ≠ []

def settle (u : Url) : Except Fault Url :=
  if !u.isRooted && ['/', '/'].isPrefixOf u.path then .error .twoSlashes
  else if !u.isRooted && u.path.head? = some ':' then .error .colon
  else .ok { u with
    path     := escape inPath (if u.isRooted then straighten u.path else u.path)
    query    := u.query.map (escape inQuery)
    fragment := u.fragment.map (escape inFragment)
  }

def isSchemeChar (c : Char) : Bool :=
  c.isAlphanum || c = '+' || c = '-' || c = '.'

-- The scheme before the first colon, and what follows it. It may be empty.
def splitScheme (s : List Char) : List Char × List Char :=
  let scheme := if s.head?.any Char.isAlpha then s.takeWhile isSchemeChar else []
  match s.drop scheme.length with
  | ':' :: rest => (scheme.map Char.toLower, rest)
  | _ => ([], s)

-- What follows two slashes up to the path, and what follows it.
def splitAuthority : List Char → List Char × List Char
  | '/' :: '/' :: rest =>
    let authority := rest.takeWhile fun c => c ≠ '/' && c ≠ '?' && c ≠ '#'
    (authority, rest.drop authority.length)
  | s => ([], s)

def splitAt (mark : Char) (s : List Char) : List Char × Option (List Char) :=
  match s.dropWhile (· ≠ mark) with
  | _ :: rest => (s.takeWhile (· ≠ mark), some rest)
  | [] => (s, none)

-- The user before the last at sign, and what follows it.
def splitUser (authority : List Char) : List Char × List Char :=
  let place := (authority.reverse.takeWhile (· ≠ '@')).reverse
  (authority.take (authority.length - place.length - 1), place)

-- The host, up to the last bracket or the first colon, and the port after it.
def splitPort (place : List Char) : List Char × List Char :=
  let bracketed := (place.reverse.dropWhile (· ≠ ']')).reverse
  let host :=
    if place.head? = some '[' ∧ bracketed ≠ [] then bracketed else place.takeWhile (· ≠ ':')
  let port := place.drop host.length
  (host, if port.head? = some ':' then port.drop 1 else port)

def control? (s : List Char) : Option (Char × Nat) :=
  let before := s.takeWhile fun c => 0x20 ≤ c.toNat && c.toNat ≠ 0x7F
  (s.drop before.length).head?.map (·, before.length)

def parse (s : List Char) : Except Fault Url := do
  if maxLength < s.length then .error .tooLong
  if let some (c, place) := control? s then .error (.control c place)
  let (scheme, rest) := splitScheme s
  let (authority, rest) := splitAuthority rest
  let (rest, fragment) := splitAt '#' rest
  let (path, query) := splitAt '?' rest
  let (user, place) := splitUser authority
  let (host, port) := splitPort place
  let host ← encodeHost host
  let port ← readPort scheme port
  settle { scheme, user := escape inUser user, host, port, path, query, fragment }

def parts (u : Url) : List (String × List Char) :=
  [("scheme", u.scheme), ("authority", u.authority), ("path", u.path)] ++
    (u.query.toList.map ("query", ·)) ++ (u.fragment.toList.map ("fragment", ·))

-- The address with another path and query. Its host is read again as it is written, which puts the
-- escapes in it into small letters.
def redirect (u : Url) (path : List Char) (query : Option (List Char)) : Except Fault Url := do
  let u := { u with path, query }
  if let some (part, _) := u.parts.find? (maxLength < ·.2.length) then .error (.partTooLong part)
  settle { u with host := ← encodeHost u.writtenHost }

def pathOrRoot (u : Url) : List Char :=
  if u.path = [] then ['/'] else u.path

-- The address with more text at the end of its query, or of its path if it has no query.
def extend (u : Url) (more : List Char) : Except Fault Url :=
  match u.query with
  | some query => u.redirect u.pathOrRoot (some (query ++ more))
  | none => u.redirect (u.pathOrRoot ++ more) none

def asDirectory (u : Url) : Except Fault Url :=
  if (u.query.getD u.pathOrRoot).getLast? = some '/' then .ok u else u.extend ['/']

def withParams (u : Url) (params : List (String × String)) : Except Fault Url :=
  u.redirect u.path (some (Query.encode params))

end RelatedIssues.Url
