import RelatedIssues.Json.Basic
import RelatedIssues.Number.Reading

namespace RelatedIssues

inductive Complaint where
  | missing
  | notText
  | notList
  | notRecord (name : String)
  | notInteger
  | unreadableInteger
  | oversizedInteger
  | fractional
  | notFinite
  | notNumber
  | unreadableNumber
  | notPositive
  | below (least : Int)
  | above (greatest : Int)
  | tooShort (least : Nat)
  | notAmong (words : List String)
  deriving DecidableEq, Repr

namespace Complaint

def kind : Complaint → String
  | missing => "missing"
  | notText => "string_type"
  | notList => "list_type"
  | notRecord _ => "model_type"
  | notInteger => "int_type"
  | unreadableInteger => "int_parsing"
  | oversizedInteger => "int_parsing_size"
  | fractional => "int_from_float"
  | notFinite => "finite_number"
  | notNumber => "float_type"
  | unreadableNumber => "float_parsing"
  | notPositive => "greater_than"
  | below _ => "greater_than_equal"
  | above _ => "less_than_equal"
  | tooShort _ => "string_too_short"
  | notAmong _ => "enum"

-- Words between quotes, the last one after an `or`.
def alternatives : List String → String
  | [] => ""
  | [w] => "'" ++ w ++ "'"
  | [v, w] => "'" ++ v ++ "' or '" ++ w ++ "'"
  | w :: rest => "'" ++ w ++ "', " ++ alternatives rest

def message : Complaint → String
  | missing => "Field required"
  | notText => "Input should be a valid string"
  | notList => "Input should be a valid list"
  | notRecord name => "Input should be a valid dictionary or instance of " ++ name
  | notInteger => "Input should be a valid integer"
  | unreadableInteger =>
    "Input should be a valid integer, unable to parse string as an integer"
  | oversizedInteger => "Unable to parse input string as an integer, exceeded maximum size"
  | fractional => "Input should be a valid integer, got a number with a fractional part"
  | notFinite => "Input should be a finite number"
  | notNumber => "Input should be a valid number"
  | unreadableNumber => "Input should be a valid number, unable to parse string as a number"
  | notPositive => "Input should be greater than 0"
  | below least => "Input should be greater than or equal to " ++ toString least
  | above greatest => "Input should be less than or equal to " ++ toString greatest
  | tooShort least =>
    "String should have at least " ++ toString least ++
      (if least = 1 then " character" else " characters")
  | notAmong words => "Input should be " ++ alternatives words

end Complaint

structure Problem where
  path      : List String
  complaint : Complaint
  deriving DecidableEq, Repr

-- A value, or all that is wrong with it.
abbrev Checked (α : Type) := Except (List Problem) α

namespace Checked

variable {α β : Type}

-- A checked function at a checked value; the problems of both are kept.
def ap : Checked (α → β) → Checked α → Checked β
  | .ok f, .ok a => .ok (f a)
  | .ok _, .error ps => .error ps
  | .error ps, .ok _ => .error ps
  | .error ps, .error qs => .error (ps ++ qs)

def under (name : String) : Checked α → Checked α
  | .ok a => .ok a
  | .error ps => .error (ps.map fun p => { p with path := name :: p.path })

def ofExcept : Except Complaint α → Checked α
  | .ok a => .ok a
  | .error c => .error [{ path := [], complaint := c }]

-- A list of checked values; the problems of all are kept.
def all : List (Checked α) → Checked (List α)
  | [] => .ok []
  | c :: rest => ap (c.map List.cons) (all rest)

end Checked

namespace Json

def text : Json → Except Complaint String
  | str s => .ok s
  | _ => .error .notText

-- A whole number: also a truth value, a double without a fraction, or a text that spells one. A double
-- is refused outside the range of words of 64 bits.
def integer : Json → Except Complaint Int
  | int n => .ok n
  | bool b => .ok (if b then 1 else 0)
  | real x =>
    if !x.isFinite then .error .notFinite
    else match x.toInt? with
      | none => .error .fractional
      | some n => if n.natAbs < twoTo 63 then .ok n else .error .oversizedInteger
  | str s =>
    match Number.readInt s with
    | .ok n => .ok n
    | .error .tooLong => .error .oversizedInteger
    | .error .other => .error .unreadableInteger
  | _ => .error .notInteger

-- A number: also a truth value, or a text that spells one.
def number : Json → Except Complaint Double
  | real x => .ok x
  | int n =>
    let x := Double.ofInt n
    if x.isFinite then .ok x else .error .notNumber
  | bool b => .ok (.ofInt (if b then 1 else 0))
  | str s => (Number.readDouble? s).elim (.error .unreadableNumber) .ok
  | _ => .error .notNumber

def optional (read : Json → Except Complaint α) : Json → Except Complaint (Option α)
  | null => .ok none
  | j => (read j).map some

def oneOf (words : List String) (read : String → Option α) : Json → Except Complaint α
  | str s => (read s).elim (.error (.notAmong words)) .ok
  | _ => .error (.notAmong words)

end Json
end RelatedIssues
