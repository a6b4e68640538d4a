import RelatedIssues.Relation

namespace RelatedIssues

-- What is asked for: a relation, the links that count, and the query whose issues it starts from.
structure Request where
  relation : Relation := .linked
  filter   : Option LinkFilter := none
  query    : String := ""
  deriving DecidableEq, Repr, Inhabited

end RelatedIssues
