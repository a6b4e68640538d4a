import RelatedIssues.Text.Blank
import RelatedIssues.Text.Lower

namespace RelatedIssues

-- Which edge leads from an issue to its related ones.
inductive Relation where
  | linked
  | parent
  | epicOf
  | subtask
  deriving DecidableEq, Repr, Inhabited

namespace Relation

def word : Relation → String
  | linked => "linked"
  | parent => "parent"
  | epicOf => "epic-of"
  | subtask => "subtask"

def label : Relation → String
  | linked => "Linked issues"
  | parent => "Parent"
  | epicOf => "Epic parent"
  | subtask => "Subtasks"

def all : List Relation :=
  [linked, parent, epicOf, subtask]

-- The words that are understood: one for each relation, and a common misspelling.
def vocabulary : List (List Char × Relation) :=
  all.map (fun r => (r.word.toList, r)) ++ [("substask".toList, subtask)]

def ofToken? (token : List Char) : Option Relation :=
  vocabulary.lookup (Text.lower (Text.trim token))

def ofWord? (word : String) : Option Relation :=
  all.find? (·.word = word)

theorem ofWord?_word (r : Relation) : ofWord? r.word = some r := by
  cases r <;> decide

end Relation

inductive Direction where
  | inward
  | outward
  deriving DecidableEq, Repr, Inhabited

namespace Direction

def word : Direction → String
  | inward => "inward"
  | outward => "outward"

def all : List Direction :=
  [inward, outward]

def vocabulary : List (List Char × Direction) :=
  all.map fun d => (d.word.toList, d)

def ofToken? (token : List Char) : Option Direction :=
  vocabulary.lookup (Text.lower (Text.trim token))

def ofWord? (word : String) : Option Direction :=
  all.find? (·.word = word)

theorem ofWord?_word (d : Direction) : ofWord? d.word = some d := by
  cases d <;> decide

end Direction

-- Which links are followed: those with a label equal to the hint, and on them only one side.
structure LinkFilter where
  hint      : Option String := none
  direction : Option Direction := none
  deriving DecidableEq, Repr, Inhabited

-- A filter that lets every link through on both sides.
def LinkFilter.isEmpty (f : LinkFilter) : Bool :=
  f.hint.all (· = "") && f.direction.isNone

end RelatedIssues
