import RelatedIssues.Failure
import RelatedIssues.Issue.Basic
import RelatedIssues.Relation
import RelatedIssues.Text.Quoted

namespace RelatedIssues

-- Keys without those that are missing or empty and without repetitions; the first of equal ones stays.
def distinctKeys (keys : List (Option String)) : List String :=
  ((keys.filterMap id).filter (· ≠ "")).eraseDups

namespace LinkFilter

-- The hint in the form in which labels are compared; empty if every label will do.
def normalizedHint (f : Option LinkFilter) : List Char :=
  normalizeLabel (f.bind (·.hint))

def admits (f : Option LinkFilter) (link : Link) : Bool :=
  normalizedHint f = [] || link.type.labels.contains (normalizedHint f)

def wants (f : Option LinkFilter) (side : Direction) : Bool :=
  (f.bind (·.direction)).all (· = side)

end LinkFilter

-- The keys at the ends of a link that the filter wants, the outward one first.
def Link.ends (f : Option LinkFilter) (link : Link) : List (Option String) :=
  if LinkFilter.admits f link then
    (if LinkFilter.wants f .outward then link.outward.toList.map (·.key) else []) ++
      (if LinkFilter.wants f .inward then link.inward.toList.map (·.key) else [])
  else []

-- A parent that is an epic, as far as its type is known.
def Parent.mayBeEpic (p : Parent) : Bool :=
  p.type.all (·.isEpic)

namespace Issue

-- The keys that a relation leads to from an issue. A filter matters for links only.
def related (relation : Relation) (f : Option LinkFilter) (issue : Issue) : List (Option String) :=
  match relation with
  | .linked => issue.links.flatMap (·.ends f)
  | .parent => issue.parent.toList.map (·.key)
  | .epicOf => (issue.parent.toList.filter (·.mayBeEpic)).map (·.key)
  | .subtask => issue.subtasks.map (·.key)

end Issue

-- The keys in the order in which they are met, each once and none of them empty.
def extractKeys (issues : List Issue) (relation : Relation) (f : Option LinkFilter) : List String :=
  distinctKeys (issues.flatMap (·.related relation f))

def extractByWord (issues : List Issue) (word : String) (f : Option LinkFilter) :
    Except Failure (List String) :=
  match Relation.ofWord? word with
  | some relation => .ok (extractKeys issues relation f)
  | none => .error (.value ("Unsupported relation mode: " ++ .ofList (Text.quoted word.toList)))

end RelatedIssues
