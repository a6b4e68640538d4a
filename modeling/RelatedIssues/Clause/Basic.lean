namespace RelatedIssues

-- The keys that an issue's key must be among, or must not.
structure Clause where
  negated : Bool
  keys    : List String
  deriving DecidableEq, Repr, Inhabited

namespace Clause

-- Each key counts once, at its first place.
def ofKeys (keys : List String) (negated : Bool) : Clause where
  negated := negated
  keys    := keys.eraseDups

def sentinel : String :=
  "__NO_MATCH__"

-- The clause that no issue meets.
def matchNothing : String :=
  "issuekey = \"" ++ sentinel ++ "\""

-- The clause that every issue meets.
def matchEverything : String :=
  "issuekey != \"" ++ sentinel ++ "\""

def escapeChar (c : Char) : List Char :=
  if c = '\\' ∨ c = '\'' then ['\\', c] else [c]

-- A backslash stands before every quote and every backslash.
def escape (key : List Char) : List Char :=
  key.flatMap escapeChar

def literal (key : String) : List Char :=
  '\'' :: escape key.toList ++ ['\'']

def literals : List String → List Char
  | [] => []
  | [key] => literal key
  | key :: rest => literal key ++ ',' :: ' ' :: literals rest

def operator (negated : Bool) : String :=
  if negated then "not in" else "in"

-- A list that is empty has a clause that no issue meets.
def text (c : Clause) : String :=
  if c.keys = [] then
    if c.negated then matchEverything else matchNothing
  else
    "issuekey " ++ operator c.negated ++ " (" ++ .ofList (literals c.keys) ++ ")"

def build (keys : List String) (negated : Bool) : String :=
  (ofKeys keys negated).text

theorem literals_cons_cons {key key' : String} {rest : List String} :
    literals (key :: key' :: rest) = literal key ++ [',', ' '] ++ literals (key' :: rest) := by
  simp [literals]

theorem text_of_keys_eq_nil {c : Clause} (h : c.keys = []) :
    c.text = if c.negated then matchEverything else matchNothing := by
  simp [text, h]

-- The text of a clause with keys: its head, the literals and the closing bracket.
theorem toList_text {c : Clause} (h : c.keys ≠ []) :
    c.text.toList =
      ("issuekey " ++ operator c.negated ++ " (").toList ++ literals c.keys ++ [')'] := by
  simp [text, h]

theorem quote_not_mem_head (negated : Bool) :
    '\'' ∉ ("issuekey " ++ operator negated ++ " (").toList := by
  cases negated <;> decide

end Clause
end RelatedIssues
