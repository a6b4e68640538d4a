import RelatedIssues.Clause.Basic

namespace RelatedIssues.Clause

-- The key of a literal whose opening quote has been read, and how many characters follow up to its
-- closing quote and with it. A backslash stands for the character after it, which is not a line feed.
def closing? : List Char → Option (List Char × Nat)
  | [] => none
  | '\'' :: _ => some ([], 1)
  | ['\\'] => none
  | '\\' :: c :: rest =>
    if c = '\n' then none else (closing? rest).map fun r => (c :: r.1, r.2 + 2)
  | c :: rest => (closing? rest).map fun r => (c :: r.1, r.2 + 1)

-- The keys of the literals in a text, after `skip` characters that were read before. A quote that opens
-- no literal is passed over.
def keysAfter : (skip : Nat) → List Char → List (List Char)
  | _, [] => []
  | skip + 1, _ :: rest => keysAfter skip rest
  | 0, c :: rest =>
    if c = '\'' then
      match closing? rest with
      | some (key, size) => key :: keysAfter size rest
      | none => keysAfter 0 rest
    else
      keysAfter 0 rest

def readKeys (text : String) : List String :=
  (keysAfter 0 text.toList).map .ofList

end RelatedIssues.Clause
