import RelatedIssues.Text.Blank
import RelatedIssues.Text.Lower

namespace RelatedIssues

structure IssueRef where
  key : Option String := none
  deriving DecidableEq, Repr, Inhabited

-- The type of a link, with a label for each way to read it.
structure LinkType where
  name    : Option String := none
  inward  : Option String := none
  outward : Option String := none
  deriving DecidableEq, Repr, Inhabited

-- A label in the form in which labels are compared.
def normalizeLabel (label : Option String) : List Char :=
  Text.lower (Text.trim (label.getD "").toList)

def LinkType.labels (t : LinkType) : List (List Char) :=
  [normalizeLabel t.name, normalizeLabel t.inward, normalizeLabel t.outward]

structure Link where
  type    : LinkType := {}
  outward : Option IssueRef := none
  inward  : Option IssueRef := none
  deriving DecidableEq, Repr, Inhabited

structure IssueType where
  level : Option Int := none
  name  : Option String := none
  deriving DecidableEq, Repr, Inhabited

-- The parent of an issue; its type is unknown if the service did not tell it.
structure Parent where
  key  : Option String := none
  type : Option IssueType := none
  deriving DecidableEq, Repr, Inhabited

-- Epics have the first level above the others, or the name.
def IssueType.isEpic (t : IssueType) : Bool :=
  t.level = some 1 || normalizeLabel t.name = "epic".toList

-- An issue, reduced to the edges that lead from it to other issues. Every part may be missing.
structure Issue where
  key      : Option String := none
  links    : List Link := []
  parent   : Option Parent := none
  subtasks : List IssueRef := []
  deriving DecidableEq, Repr, Inhabited

end RelatedIssues
