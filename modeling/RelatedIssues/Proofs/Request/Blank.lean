import RelatedIssues.Invocation
import RelatedIssues.Proofs.Text.Trim
import RelatedIssues.Request.Parser

namespace RelatedIssues

theorem trimmed?_ne_empty {s : List Char} {t : String} (h : trimmed? s = some t) : t ≠ "" := by
  unfold trimmed? at h
  split at h
  case h_1 => contradiction
  case h_2 hn =>
    cases h
    intro he
    exact hn (by simpa using congrArg String.toList he)

namespace Request

-- A text that starts with a relation has a query behind it.
theorem query_ne_empty_of_ofPrefixed? {text : List Char} {q : Request}
    (h : ofPrefixed? text = some q) : q.query ≠ "" := by
  simp only [ofPrefixed?, Option.bind_eq_bind, Option.bind_eq_some_iff] at h
  have ⟨relation, _, ⟨filter, c⟩, _, h⟩ := h
  split at h
  case h_1 => contradiction
  case h_2 =>
    have ⟨query, hq, h⟩ := Option.bind_eq_some_iff.mp h
    cases h
    exact trimmed?_ne_empty hq

theorem parse_of_blank {text : String} (h : ∀ c ∈ text.toList, Text.isBlank c) : parse text = {} := by
  rw [parse, if_pos (Text.trimBy_eq_nil_iff.mpr h)]

theorem query_parse_eq_empty_iff {text : String} :
    (parse text).query = "" ↔ ∀ c ∈ text.toList, Text.isBlank c := by
  constructor
  case mpr => exact fun h => parse_of_blank h ▸ rfl
  case mp =>
    intro h
    by_contra hb
    have ht : Text.trim text.toList ≠ [] := mt Text.trimBy_eq_nil_iff.mp hb
    rw [parse, if_neg ht] at h
    cases hp : ofPrefixed? (Text.trim text.toList)
    case some q => exact query_ne_empty_of_ofPrefixed? hp (by simpa [hp] using h)
    case none => exact ht (by simpa [hp] using congrArg String.toList h)

end Request

-- An invocation is blank if its first argument is, or if it has none.
def Invocation.IsBlank (i : Invocation) : Prop :=
  ∀ argument ∈ i.arguments.head?, ∀ c ∈ argument.toList, Text.isBlank c

theorem Invocation.isBlank_iff {i : Invocation} :
    i.IsBlank ↔ (Request.parse i.argument).query = "" := by
  rw [Request.query_parse_eq_empty_iff, IsBlank, argument]
  cases i.arguments <;> simp

end RelatedIssues
