import RelatedIssues.Table
import RelatedIssues.Text.Blank
import RelatedIssues.Text.Lines

namespace RelatedIssues.EnvFile

-- A value without the blanks around it, and then without double and single quotes around it.
def unquote (value : List Char) : List Char :=
  Text.trimBy (· = '\'') (Text.trimBy (· = '"') (Text.trim value))

-- The variable that a line without blanks around it sets: a name, the first `=` and a value.
def assignment? (line : List Char) : Option (List Char × List Char) :=
  let name := Text.trim (line.takeWhile (· ≠ '='))
  match line.dropWhile (· ≠ '=') with
  | '=' :: value => if name = [] then none else some (name, unquote value)
  | _ => none

def entry? (line : List Char) : Option (List Char × List Char) :=
  match Text.trim line with
  | '#' :: _ => none
  | line => assignment? line

-- The variables of a text. The last line that sets a variable decides its value.
def read (text : String) : Table String :=
  Table.override [] <|
    ((Text.lines text.toList).filterMap entry?).map fun (name, value) =>
      (String.ofList name, String.ofList value)

def heading : String :=
  "# jql-relations user config (.env)"

def sorted (vars : Table String) : Table String :=
  vars.mergeSort (·.1 ≤ ·.1)

-- One variable a line, in the order of their names, so that the text depends on the variables only.
def render (vars : Table String) : String :=
  heading ++ "\n" ++ String.join ((sorted vars).map fun (name, value) => name ++ "=" ++ value ++ "\n")

-- Values to be written; null leaves a variable as it is.
abbrev Writes := Table (Option String)

def Writes.values (writes : Writes) : Table String :=
  writes.filterMap fun (name, value) => value.map (name, ·)

def readIfAny (existing : Option String) : Table String :=
  (existing.map read).getD []

def update (existing : Option String) (writes : Writes) : String :=
  render ((readIfAny existing).override writes.values)

end RelatedIssues.EnvFile
