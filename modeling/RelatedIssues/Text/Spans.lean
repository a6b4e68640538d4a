namespace RelatedIssues.Text

-- Spans of code points in increasing order, both ends included.
abbrev Spans := List (Nat × Nat)

namespace Spans

def contains (spans : Spans) (c : Char) : Bool :=
  spans.any fun span => span.1 ≤ c.toNat && c.toNat ≤ span.2

theorem contains_iff {spans : Spans} {c : Char} :
    spans.contains c ↔ ∃ span ∈ spans, span.1 ≤ c.toNat ∧ c.toNat ≤ span.2 := by
  simp [contains]

end Spans
end RelatedIssues.Text
