import RelatedIssues.Json.Basic
import RelatedIssues.Number.Shortest
import RelatedIssues.Text.Quoted

namespace RelatedIssues.Json

-- How a text is laid out: what stands between items and after names, and the width of one level of
-- indentation if every item has a line of its own.
structure Layout where
  comma  : String
  colon  : String
  indent : Option Nat := none

def Layout.compact : Layout :=
  { comma := ",", colon := ":" }

def Layout.spaced : Layout :=
  { comma := ", ", colon := ": " }

def Layout.indented : Layout :=
  { comma := ",", colon := ": ", indent := some 2 }

def escapeChar (c : Char) : List Char :=
  if c = '"' then ['\\', '"']
  else if c = '\\' then ['\\', '\\']
  else if c = '\n' then ['\\', 'n']
  else if c = '\r' then ['\\', 'r']
  else if c = '\t' then ['\\', 't']
  else if c = '\x08' then ['\\', 'b']
  else if c = '\x0C' then ['\\', 'f']
  else if c.toNat < 0x20 then '\\' :: 'u' :: Text.hex 4 c.toNat
  else [c]

def writeString (s : String) : String :=
  .ofList ('"' :: s.toList.flatMap escapeChar ++ ['"'])

def Layout.newline (layout : Layout) (level : Nat) : String :=
  match layout.indent with
  | none => ""
  | some width => "\n" ++ .ofList (List.replicate (width * level) ' ')

def Layout.group (layout : Layout) (level : Nat) (left right : String) : List String → String
  | [] => left ++ right
  | items =>
    left ++ layout.newline (level + 1) ++
      (layout.comma ++ layout.newline (level + 1)).intercalate items ++
      layout.newline level ++ right

mutual

def writeAt (layout : Layout) (level : Nat) : Json → String
  | .null => "null"
  | .bool b => if b then "true" else "false"
  | .int n => toString n
  | .real x => x.text "Infinity" "NaN"
  | .str s => writeString s
  | .arr items => layout.group level "[" "]" (writeItems layout (level + 1) items)
  | .obj fields => layout.group level "\x7b" "\x7d" (writeFields layout (level + 1) fields)

def writeItems (layout : Layout) (level : Nat) : List Json → List String
  | [] => []
  | j :: rest => writeAt layout level j :: writeItems layout level rest

def writeFields (layout : Layout) (level : Nat) : List (String × Json) → List String
  | [] => []
  | (name, j) :: rest =>
    (writeString name ++ layout.colon ++ writeAt layout level j) :: writeFields layout level rest

end

def write (layout : Layout) (j : Json) : String :=
  writeAt layout 0 j

mutual

-- The value with the fields of every object in the order of their names.
def sortNames : Json → Json
  | .arr items => .arr (sortNamesIn items)
  | .obj fields => .obj ((sortNamesUnder fields).mergeSort (·.1 ≤ ·.1))
  | j => j

def sortNamesIn : List Json → List Json
  | [] => []
  | j :: rest => sortNames j :: sortNamesIn rest

def sortNamesUnder : List (String × Json) → List (String × Json)
  | [] => []
  | (name, j) :: rest => (name, sortNames j) :: sortNamesUnder rest

end

end RelatedIssues.Json
