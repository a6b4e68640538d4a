import RelatedIssues.Request.Basic
import RelatedIssues.Request.Cursor

namespace RelatedIssues

def splitArrow : List Char → List Char × Option (List Char)
  | '-' :: '>' :: rest => ([], some rest)
  | c :: rest => (c :: (splitArrow rest).1, (splitArrow rest).2)
  | [] => ([], none)

def trimmed? (s : List Char) : Option String :=
  match Text.trim s with
  | [] => none
  | t => some (.ofList t)

-- The filter between brackets: a hint, a direction after an arrow, or both.
def LinkFilter.ofBody? (body : List Char) : Option LinkFilter :=
  match trimmed? (splitArrow body).1, (splitArrow body).2 with
  | none, none => none
  | some hint, none => some { hint := some hint }
  | hint, some direction => (Direction.ofToken? direction).map fun d => { hint, direction := some d }

namespace Request

-- The filter at a cursor, if a bracket opens there. A bracket that does not close, or holds no filter,
-- is an error.
def takeFilter? (c : Cursor) : Option (Option LinkFilter × Cursor) :=
  match c.take ['['] with
  | (false, c) => some (none, c)
  | (true, c) =>
    match c.takeUntil [']'] with
    | (none, _) => none
    | (some body, c) => (LinkFilter.ofBody? body).map fun f => (some f, c)

-- Only linked issues are filtered.
def filterFor (relation : Relation) (filter : Option LinkFilter) : Option LinkFilter :=
  if relation = .linked then filter else none

def ofPrefixed? (text : List Char) : Option Request := do
  let (word, c) := (Cursor.start text).takeWord
  let relation ← Relation.ofToken? word
  let (filter, c) ← takeFilter? c
  match c.take [':'] with
  | (false, _) => none
  | (true, c) =>
    let query ← trimmed? c.rest
    return { relation, filter := filterFor relation filter, query }

-- The request in a text; a blank text asks for nothing.
def parse (text : String) : Request :=
  let t := Text.trim text.toList
  if t = [] then {}
  else (ofPrefixed? t).getD { query := .ofList t }

-- The request in an argument; a missing one is blank.
def ofArgument (argument : Option String) : Request :=
  parse (argument.getD "")

end Request
end RelatedIssues
