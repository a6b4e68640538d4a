import RelatedIssues.Proofs.Extraction.Union
import RelatedIssues.Proofs.Issue.Pieces
import RelatedIssues.Proofs.Search.Retrieval

namespace RelatedIssues

namespace Json

def isObject : Json → Bool
  | obj _ => true
  | _ => false

-- What stands under the first of some names that is there.
def under? (j : Json) (names : List String) : Option Json :=
  names.findSome? j.get?

-- Nothing at all, null or a text.
def isTextIfAny : Option Json → Bool
  | none | some .null | some (.str _) => true
  | some _ => false

-- The key of an object, if it is a text that says something.
def key? (j : Json) : Option String :=
  match j.get? "key" with
  | some (.str key) => if key = "" then none else some key
  | _ => none

-- A label in the form in which labels are compared. What is no text is compared as the text that stands for it,
-- and null is no label.
def comparable : Json → List Char
  | .null => []
  | label => Text.lower (Text.trim label.display.toList)

end Json

section

variable {j : Json} {fields : Table Json} {name other : String}

theorem Json.under?_pair : (Json.obj fields).under? [name, other] =
    (Table.get? fields name).or (Table.get? fields other) := by
  simp only [Json.under?, List.findSome?_cons, List.findSome?_nil, Json.get?]
  cases Table.get? fields name <;> cases Table.get? fields other <;> rfl

theorem Json.either_eq : Json.either fields name other =
    ((Json.obj fields).under? [name, other]).getD .null := by
  rw [Json.under?_pair, Json.either]
  cases Table.get? fields name <;> rfl

theorem Json.isSome_textOrNull? (value : Option Json) :
    (Json.textOrNull? (value.getD .null)).isSome = Json.isTextIfAny value := by
  cases value with
  | none => rfl
  | some j => cases j <;> rfl

theorem Json.key?_ne_empty {key : String} (h : j.key? = some key) : key ≠ "" := by
  unfold Json.key? at h
  split at h
  case h_1 =>
    split at h
    case isTrue => cases h
    case isFalse hk =>
      cases h
      exact hk
  case h_2 => cases h

theorem normalizeLabel_labelOfJson : normalizeLabel (LinkType.labelOfJson j) = j.comparable := by
  cases j <;> rfl

end

variable {entries : List Json} {issues : List Issue} {relation : Relation} {f : Option LinkFilter}

theorem extractKeys_of_entries {walk : Json → List String}
    (hw : ∀ entry issue, Issue.ofJson entry = .ok issue →
      namedKeys (issue.related relation f) = walk entry)
    (hm : entries.mapM Issue.ofJson = .ok issues) :
    extractKeys issues relation f = (entries.flatMap walk).eraseDups := by
  rw [extractKeys_eq, Retrieval.flatMap_eq_of_mapM hm hw]

end RelatedIssues
