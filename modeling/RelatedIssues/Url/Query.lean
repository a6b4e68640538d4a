import RelatedIssues.Table
import RelatedIssues.Url.Percent

namespace RelatedIssues.Url.Query

-- A space is written as a plus sign.
def encodePart (s : String) : List Char :=
  s.toList.flatMap fun c => if c = ' ' then ['+'] else escapeChar isUnreserved c

def encodePair (pair : String × String) : List Char :=
  encodePart pair.1 ++ '=' :: encodePart pair.2

def encode (pairs : List (String × String)) : List Char :=
  ['&'].intercalate (pairs.map encodePair)

def decodePart (s : List Char) : String :=
  .ofList (unescape (s.map fun c => if c = '+' then ' ' else c))

-- A pair that is read may lack its value.
def decodePair (s : List Char) : String × String :=
  (decodePart (s.takeWhile (· ≠ '=')), decodePart ((s.dropWhile (· ≠ '=')).drop 1))

-- The pairs in the order in which their names first occur.
def gather (pairs : List (String × String)) : List (String × String) :=
  (pairs.map (·.1)).eraseDups.flatMap fun name => pairs.filter (·.1 = name)

def decode (s : List Char) : List (String × String) :=
  gather (((s.splitOnP (· = '&')).filter (· ≠ [])).map decodePair)

end RelatedIssues.Url.Query
