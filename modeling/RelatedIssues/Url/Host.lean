import RelatedIssues.Number.Integer
import RelatedIssues.Text.Lower
import RelatedIssues.Url.Basic
import RelatedIssues.Url.Label

namespace RelatedIssues.Url

-- The places in four groups of digits, with any character between two groups, that a text can have
-- reached one character later. Even places are in a group, odd ones right after it.
def reached (places : List Nat) (c : Char) : List Nat :=
  (List.range 7).filter fun n =>
    if n % 2 = 0 then c.isDigit && (places.contains n || (0 < n && places.contains (n - 1)))
    else places.contains (n - 1)

-- Whether a host looks like four numbers: it reaches the last group.
def looksNumeric : List Char → Bool
  | c :: rest => c.isDigit && (rest.foldl reached [0]).contains 6
  | [] => false

-- A number below 256, without zeros in front.
def isOctet (s : List Char) : Bool :=
  s ≠ [] && s.all Char.isDigit && s.length ≤ 3 && (s = ['0'] || s.head? ≠ some '0') &&
    Number.natOf s < 256

def isAddress4 (s : List Char) : Bool :=
  let octets := s.splitOnP (· = '.')
  octets.length = 4 && octets.all isOctet

def isHextet (s : List Char) : Bool :=
  s ≠ [] && s.length ≤ 4 && s.all fun c => (Text.hexDigit? c).isSome

-- The groups with an address of four numbers at their end taken as two groups.
def expandLast (groups : List (List Char)) : Option (List (List Char)) :=
  match groups.getLast? with
  | some last =>
    if last.contains '.' then
      if isAddress4 last then some (groups.dropLast ++ [['0'], ['0']]) else none
    else some groups
  | none => none

-- Groups on one side of the gap. The side may be empty.
def isSide (groups : List (List Char)) : Bool :=
  groups = [[]] || groups.all isHextet

-- Eight groups, or fewer with one gap that stands for the others.
def areGroups (groups : List (List Char)) : Bool :=
  let inner := (groups.drop 1).dropLast
  match (inner.filter (· = [])).length with
  | 0 => groups.length = 8 && groups.all isHextet
  | 1 =>
    let size := 1 + (inner.takeWhile (· ≠ [])).length
    let upper := groups.take size
    let lower := groups.drop (size + 1)
    isSide upper && isSide lower &&
      ((upper ++ lower).filter (· ≠ [])).length < 8
  | _ => false

-- An address, and after a percent sign the zone in which it counts.
def isAddress6 (s : List Char) : Bool :=
  let address := s.takeWhile (· ≠ '%')
  let zone := s.drop address.length
  let groups := address.splitOnP (· = ':')
  (zone = [] || (1 < zone.length && !(zone.drop 1).contains '%')) && 3 ≤ groups.length &&
    match expandLast groups with
    | some groups => groups.length ≤ 9 && areGroups groups
    | none => false

def bracketed? : List Char → Option (List Char)
  | '[' :: rest => if rest.getLast? = some ']' then some rest.dropLast else none
  | _ => none

-- A host is an address of the fourth or sixth version of the protocol, a name in ASCII, or an internationalised name,
-- which is put into ASCII.
def encodeHost (host : List Char) : Except Fault (List Char) :=
  if looksNumeric host then if isAddress4 host then .ok host else .error (.address4 host)
  else match bracketed? host with
    | some address => if isAddress6 address then .ok address else .error (.address6 host)
    | none =>
      let name := Text.lower host
      if host.all (·.toNat < 128) then .ok (escape inHost name)
      else match hostToAscii? name with
        | some name => .ok name
        | none => .error (.foreignHost host)

def impliedPort (scheme : List Char) : Option Int :=
  [("ftp", 21), ("http", 80), ("https", 443), ("ws", 80), ("wss", 443)].lookup (String.ofList scheme)

-- The port after a host. The one that the scheme implies is left out.
def readPort (scheme text : List Char) : Except Fault (Option Int) :=
  if text = [] then .ok none
  else match Number.integer? text with
    | some port => .ok (if some port = impliedPort scheme then none else some port)
    | none => .error (.port text)

end RelatedIssues.Url
