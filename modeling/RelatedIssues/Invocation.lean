import RelatedIssues.Json.Display
import RelatedIssues.Text.Blank
import RelatedIssues.Validation

namespace RelatedIssues

structure Invocation where
  operator  : String := "in"
  arguments : List String := []
  deriving DecidableEq, Repr, Inhabited

namespace Invocation

-- Every operator but `in` negates.
def negates (i : Invocation) : Bool :=
  i.operator ≠ "in"

def argument (i : Invocation) : String :=
  i.arguments.headD ""

def argumentOfJson : Json → String
  | .null => ""
  | j => j.display

-- An operator counts if it is a text that is not blank.
def operatorOfJson : Json → String
  | .str s => if Text.trim s.toList = [] then "in" else s
  | _ => "in"

-- The invocation under `clause` in a payload; whatever is missing there is as in a call without
-- operator and arguments.
def ofPayload (payload : Json) : Invocation where
  operator  := operatorOfJson ((payload.getD "clause").getD "operator")
  arguments := ((payload.getD "clause").getD "arguments").itemsD.map argumentOfJson

def texts : Json → Checked (List String)
  | .arr items =>
    Checked.all (items.zipIdx.map fun (j, i) => (Checked.ofExcept j.text).under (toString i))
  | _ => .error [{ path := [], complaint := .notList }]

def ofFields (fields : Table Json) : Checked Invocation :=
  let operator : Checked String := match Table.get? fields "operator" with
    | some j => (Checked.ofExcept j.text).under "operator"
    | none => .ok "in"
  let arguments : Checked (List String) := match Table.get? fields "arguments" with
    | some j => (texts j).under "arguments"
    | none => .ok []
  Checked.ap (Except.map Invocation.mk operator) arguments

end Invocation
end RelatedIssues
