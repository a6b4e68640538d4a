import RelatedIssues.Failure

namespace RelatedIssues

-- A place in a tree of files: how many slashes it starts with, and its steps, none of which is empty or
-- a single dot.
structure Location where
  root  : Nat
  steps : List String
  deriving DecidableEq, Repr

namespace Location

-- The steps between slashes. A step up stays as it is.
def stepsOf (text : List Char) : List String :=
  ((text.splitOnP (· = '/')).filter fun step => step ≠ [] ∧ step ≠ ['.']).map .ofList

-- The place that a text names. Two slashes at the start are not the same as one; more are.
def ofText (text : String) : Location where
  root  := match (text.toList.takeWhile (· = '/')).length with
    | 0 => 0
    | 2 => 2
    | _ => 1
  steps := stepsOf text.toList

def text (l : Location) : String :=
  if l.root = 0 ∧ l.steps = [] then "."
  else .ofList (List.replicate l.root '/') ++ "/".intercalate l.steps

def below (l : Location) (steps : List String) : Location :=
  { l with steps := l.steps ++ steps }

-- Steps with every step up taken, from the last step back to the first.
def settle : List String → List String → List String
  | taken, [] => taken
  | taken, step :: rest => settle (if step = ".." then taken.drop 1 else step :: taken) rest

-- The steps that lead from a directory down to a place below it. The directory itself is not.
def stepsFrom? (l dir : Location) : Option (List String) :=
  let steps := (settle [] (l.steps.drop dir.steps.length)).reverse
  if l.root = dir.root ∧ dir.steps.isPrefixOf l.steps ∧ steps ≠ [] then some steps else none

end Location

structure Machine where
  platform   : String
  home       : String
  configHome : Option String := none
  appData    : Option String := none
  deriving DecidableEq, Repr

namespace Machine

-- The home directory. A text that starts with a tilde names none.
def homeDir (m : Machine) : Except Failure Location :=
  match Text.trimEndBy (· = '/') m.home.toList with
  | [] => .ok (.ofText "/")
  | '~' :: _ => .error (.runtime "Could not determine home directory.")
  | home => .ok (.ofText (.ofList home))

def settingsRoot (m : Machine) : Except Failure Location :=
  if m.platform.startsWith "win" then m.homeDir.map fun home => (m.appData.map .ofText).getD home
  else if m.platform = "darwin" then m.homeDir.map (·.below ["Library", "Application Support"])
  else match m.configHome.filter (· ≠ "") with
    | some dir => .ok (.ofText dir)
    | none => m.homeDir.map (·.below [".config"])

-- A directory of its own, below the place where the platform keeps the settings of a user.
def configDir (m : Machine) : Except Failure Location :=
  m.settingsRoot.map (·.below ["jql-relations"])

def userFile (m : Machine) : Except Failure Location :=
  m.configDir.map (·.below [".env"])

end Machine
end RelatedIssues
