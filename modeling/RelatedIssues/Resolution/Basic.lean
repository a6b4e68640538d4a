import RelatedIssues.Event

namespace RelatedIssues

-- What an invocation came to: the clause, and how it was found or why it was not.
structure Resolution where
  clause   : String
  relation : Option Relation := none
  filter   : Option LinkFilter := none
  seeds    : Nat := 0
  keys     : Nat := 0
  elapsed  : Nat := 0
  error    : Option String := none
  deriving DecidableEq, Repr, Inhabited

namespace Resolution

def toJson (r : Resolution) : Json :=
  .obj [
    ("jql", .str r.clause),
    ("mode", .ofOption (fun m => .str m.word) r.relation),
    ("link_filter", .ofOption LinkFilter.toJson r.filter),
    ("seed_count", .int r.seeds),
    ("key_count", .int r.keys),
    ("elapsed_ms", .int r.elapsed),
    ("error", .ofOption .str r.error)]

-- A resolution has failed if it says why.
def hasFailed (r : Resolution) : Bool :=
  r.error.any (· ≠ "")

end Resolution
end RelatedIssues
