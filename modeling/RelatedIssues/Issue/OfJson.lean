import RelatedIssues.Failure
import RelatedIssues.Issue.Basic
import RelatedIssues.Json.Display

namespace RelatedIssues

def Json.textOrNull? : Json → Option (Option String)
  | .null => some none
  | .str s => some (some s)
  | _ => none

-- The items of what should be a list. What is empty, a text or an object has none.
def Json.listed : Json → Except Failure (List Json)
  | .arr items => .ok items
  | j@(.int _) | j@(.real _) | j@(.bool _) =>
    if j.isTruthy then .error (.misuse (.notIterable j.kind)) else .ok []
  | _ => .ok []

def Json.either (fields : Table Json) (name other : String) : Json :=
  match Table.get? fields name with
  | some j => j
  | none => (Table.get? fields other).getD .null

namespace IssueRef

-- An object with a key that is a text, null or missing.
def ofJson? : Json → Option IssueRef
  | .obj fields => (Json.textOrNull? ((Table.get? fields "key").getD .null)).map fun key => { key }
  | _ => none

def ofJsonOrNull? : Json → Option (Option IssueRef)
  | .null => some none
  | j => (ofJson? j).map some

end IssueRef

namespace LinkType

-- A label of any kind is compared as text.
def labelOfJson : Json → Option String
  | .null => none
  | j => some j.display

def ofJson (j : Json) : LinkType where
  name    := labelOfJson (j.getD "name")
  inward  := labelOfJson (j.getD "inward")
  outward := labelOfJson (j.getD "outward")

end LinkType

namespace Link

-- A link from its fields, unless one of its sides has the wrong shape.
def ofFields? (fields : Table Json) : Option Link := do
  let outward ← IssueRef.ofJsonOrNull? (Json.either fields "outwardIssue" "outward_issue")
  let inward ← IssueRef.ofJsonOrNull? (Json.either fields "inwardIssue" "inward_issue")
  return { type := .ofJson ((Table.get? fields "type").getD .null), outward, inward }

def ofJson? : Json → Option Link
  | .obj fields => ofFields? fields
  | _ => none

end Link

namespace IssueType

-- A type whose level is a whole number and whose name is a text, each of which may be null.
def ofFields? (fields : Table Json) : Option IssueType := do
  let level ← (Json.optional Json.integer (Json.either fields "hierarchyLevel" "hierarchy_level")).toOption
  let name ← Json.textOrNull? ((Table.get? fields "name").getD .null)
  return { level, name }

def ofJson? : Json → Option IssueType
  | .obj fields => ofFields? fields
  | _ => none

end IssueType

namespace Parent

def ofJson? (j : Json) : Option Parent :=
  match j.getD "key" with
  | .str key =>
    if key = "" then none
    else some { key := some key, type := IssueType.ofJson? ((j.getD "fields").getD "issuetype") }
  | _ => none

end Parent

namespace Issue

def ofFields (key : Option String) (fields : Json) : Except Failure Issue := do
  let links ← (fields.getD "issuelinks").listed
  let subtasks ← (fields.getD "subtasks").listed
  return {
    key
    links    := links.filterMap Link.ofJson?
    parent   := Parent.ofJson? (fields.getD "parent")
    subtasks := subtasks.filterMap IssueRef.ofJson?
  }

-- A piece that has the wrong shape is left out and the rest is kept. Only a number or a truth value is refused where a
-- list of links or subtasks belongs.
def ofJson (payload : Json) : Except Failure Issue :=
  ofFields (payload.getD "key").str? (payload.getD "fields")

end Issue
end RelatedIssues
