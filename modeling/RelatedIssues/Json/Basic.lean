import RelatedIssues.Number.Double
import RelatedIssues.Table

namespace RelatedIssues

-- JSON values. Whole numbers have no bounds, and an object keeps the order of its names. As everywhere in this library,
-- texts are sequences of Unicode scalar values: a surrogate that stands alone in what is read is no character, and is
-- read as the replacement character.
inductive Json where
  | null
  | bool (b : Bool)
  | int (n : Int)
  | real (x : Double)
  | str (s : String)
  | arr (items : List Json)
  | obj (fields : List (String × Json))
  deriving Inhabited

namespace Json

-- A value that says something: not null, not false, not zero and not empty.
def isTruthy : Json → Bool
  | null => false
  | bool b => b
  | int n => n ≠ 0
  | real x => !x.isZero
  | str s => s ≠ ""
  | arr items => !items.isEmpty
  | obj fields => !fields.isEmpty

def get? : Json → String → Option Json
  | obj fields, name => Table.get? fields name
  | _, _ => none

def getD (j : Json) (name : String) : Json :=
  (j.get? name).getD null

def str? : Json → Option String
  | str s => some s
  | _ => none

def fieldsD : Json → Table Json
  | obj fields => fields
  | _ => []

def itemsD : Json → List Json
  | arr items => items
  | _ => []

@[simp]
theorem getD_obj {fields : Table Json} {name : String} :
    (obj fields).getD name = (fields.get? name).getD null :=
  rfl

def ofOption (f : α → Json) : Option α → Json
  | none => null
  | some a => f a

end Json
end RelatedIssues
