import RelatedIssues.Json.Basic
import RelatedIssues.Number.Shortest
import RelatedIssues.Text.Quoted

namespace RelatedIssues.Json

def displayBool (b : Bool) : String :=
  if b then "True" else "False"

mutual

def displayInside : Json → String
  | .null => "None"
  | .bool b => displayBool b
  | .int n => toString n
  | .real x => x.text "inf" "nan"
  | .str s => .ofList (Text.quoted s.toList)
  | .arr items => "[" ++ ", ".intercalate (displayItems items) ++ "]"
  | .obj fields => "\x7b" ++ ", ".intercalate (displayFields fields) ++ "\x7d"

def displayItems : List Json → List String
  | [] => []
  | j :: rest => displayInside j :: displayItems rest

def displayFields : List (String × Json) → List String
  | [] => []
  | (name, j) :: rest =>
    (.ofList (Text.quoted name.toList) ++ ": " ++ displayInside j) :: displayFields rest

end

-- A text is itself, and what holds other values shows them, texts between quotes.
def display : Json → String
  | .str s => s
  | j => j.displayInside

@[simp]
theorem display_str {s : String} : (str s).display = s :=
  rfl

-- A value that says something shows as a text that is not empty.
theorem display_ne_empty {j : Json} (h : j.isTruthy) : j.display ≠ "" := by
  cases j
  case null => contradiction
  case bool b => cases b <;> decide
  case int n => cases n <;> simp [display, displayInside, toString, Int.repr]
  case real => exact Double.text_ne_empty (by decide) (by decide)
  case str => simpa [isTruthy] using h
  case arr => simp [display, displayInside]
  case obj => simp [display, displayInside]

end RelatedIssues.Json
