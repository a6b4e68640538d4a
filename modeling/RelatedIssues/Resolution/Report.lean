import RelatedIssues.Clause.Reader
import RelatedIssues.Console.Item
import RelatedIssues.Json.Writer
import RelatedIssues.Resolution.Basic

namespace RelatedIssues

def banner : ConsoleItem :=
  .panel "jql-relations\nLinked • Parent • Epic • Subtask" none "cyan"

-- A filter as an arrow from the hint to the side, with words for what is left open.
def LinkFilter.summary (f : LinkFilter) : String :=
  let hint := f.hint.getD ""
  (if hint = "" then "*" else hint) ++ " -> " ++ (f.direction.map (·.word)).getD "both"

namespace Resolution

def previewSize : Nat := 10

-- A long list of keys is cut short, with a count of those left out.
def preview (keys : List String) : String :=
  ", ".intercalate (keys.take previewSize) ++
    (if previewSize < keys.length then " (+" ++ toString (keys.length - previewSize) ++ " more)" else "")

def clauseKeys (r : Resolution) : List String :=
  Clause.readKeys r.clause

def keyRows (r : Resolution) : List (List String) :=
  if r.clauseKeys = [] then [] else [["Keys", preview r.clauseKeys]]

def filterRows (r : Resolution) : List (List String) :=
  r.filter.toList.map fun f => ["Link filter", f.summary]

def errorRows (r : Resolution) : List (List String) :=
  (r.error.filter (· ≠ "")).toList.map fun e => ["Error", ConsoleItem.styled e]

def rows (r : Resolution) : List (List String) :=
  ["Mode", (r.relation.map (·.label)).getD "-"] :: r.filterRows ++
    [["Seed issues", toString r.seeds], ["Result keys", toString r.keys]] ++ r.keyRows ++
    [["Elapsed", toString r.elapsed ++ " ms"]] ++ r.errorRows

def table (r : Resolution) : ConsoleItem :=
  .table "Resolution" ["Field", "Value"] r.rows

-- The clause, framed in a colour that tells whether it is the result or a way out.
def panel (r : Resolution) : ConsoleItem :=
  .panel (ConsoleItem.styled r.clause) (some "JQL") (if r.hasFailed then "red" else "green")

def line (r : Resolution) : String :=
  r.toJson.sortNames.write .spaced ++ "\n"

def file (r : Resolution) : String :=
  r.toJson.sortNames.write .indented ++ "\n"

end Resolution
end RelatedIssues
