import RelatedIssues.Failure

namespace RelatedIssues

structure ResolveOptions where
  argument : String
  operator : String := "in"
  asJson   : Bool := false
  output   : Option String := none
  deriving DecidableEq, Repr

inductive Command where
  | resolve (options : ResolveOptions)
  | checkUp
  | setUp
  deriving DecidableEq, Repr

inductive Usage where
  | help
  | wrong
  | nullInPlace
  deriving DecidableEq, Repr

namespace Usage

def exitCode : Usage → Nat
  | help => 0
  | wrong => 2
  | nullInPlace => 1

def failure? : Usage → Option Failure
  | nullInPlace => some (.value "embedded null byte")
  | _ => none

end Usage

namespace Command

-- An option starts with a hyphen, and a hyphen alone is none.
def isOption (word : List Char) : Bool :=
  word.head? = some '-' && 1 < word.length

-- What the words given so far say: the options, and the words that are none.
structure Given where
  help     : Bool := false
  operator : Option String := none
  asJson   : Bool := false
  output   : Option String := none
  words    : List String := []

inductive Valued where
  | operator
  | output
  deriving DecidableEq, Repr

def Given.set (g : Given) (value : String) : Valued → Given
  | .operator => { g with operator := some value }
  | .output => { g with output := some value }

inductive Word where
  | stop
  | plain
  | help
  | asJson
  | valued (option : Valued) (attached : Option String)
  | unknown
  deriving DecidableEq, Repr

def attached? (word : List Char) : Option String :=
  match word.dropWhile (· ≠ '=') with
  | _ :: value => some (.ofList value)
  | [] => none

def readLong (word : List Char) : Word :=
  match String.ofList (word.takeWhile (· ≠ '=')), attached? word with
  | "--help", none => .help
  | "--json", none => .asJson
  | "--operator", value => .valued .operator value
  | "--output", value => .valued .output value
  | _, _ => .unknown

-- A word that starts with one hyphen: the letter of an option, and its value if more follows.
def readShort : List Char → Word
  | ['-', 'o'] => .valued .operator none
  | '-' :: 'o' :: value => .valued .operator (some (.ofList value))
  | _ => .unknown

def readWord (word : List Char) : Word :=
  if word = ['-', '-'] then .stop
  else if !isOption word then .plain
  else if ['-', '-'].isPrefixOf word then readLong word
  else readShort word

-- The options and words of the command that resolves a request. An option takes the word after it as
-- its value, whatever it looks like.
def readGiven (g : Given) : List String → Except Usage Given
  | [] => .ok g
  | word :: rest =>
    match readWord word.toList with
    | .stop => .ok { g with words := g.words ++ rest }
    | .plain => readGiven { g with words := g.words ++ [word] } rest
    | .help => readGiven { g with help := true } rest
    | .asJson => readGiven { g with asJson := true } rest
    | .valued option (some value) => readGiven (g.set value option) rest
    | .valued option none =>
      match rest with
      | [] => .error .wrong
      | value :: rest => readGiven (g.set value option) rest
    | .unknown => .error .wrong

def readResolve (words : List String) : Except Usage Command := do
  let g ← readGiven {} words
  if g.help then .error .help
  else if g.output.any (·.toList.contains '\x00') then .error .nullInPlace
  else match g.words with
    | [argument] =>
      .ok (.resolve { argument, operator := g.operator.getD "in", asJson := g.asJson, output := g.output })
    | _ => .error .wrong

def finishBare (command : Command) (help surplus : Bool) : Except Usage Command :=
  if help then .error .help else if surplus then .error .wrong else .ok command

def readBare (command : Command) (help surplus : Bool) : List String → Except Usage Command
  | [] => finishBare command help surplus
  | word :: rest =>
    match readWord word.toList with
    | .stop => finishBare command help (surplus || !rest.isEmpty)
    | .plain => readBare command help true rest
    | .help => readBare command true surplus rest
    | _ => .error .wrong

def readGroup : (help : Bool) → List String → Except Usage (String × List String)
  | help, [] => .error (if help then .help else .wrong)
  | help, word :: rest =>
    match readWord word.toList with
    | .stop =>
      match help, rest with
      | false, name :: rest => .ok (name, rest)
      | true, _ => .error .help
      | false, [] => .error .wrong
    | .plain => if help then .error .help else .ok (word, rest)
    | .help => readGroup true rest
    | _ => .error .wrong

-- The words after a group, the first of which names no command in it. If that word is an option, it
-- counts as one.
def noCommand (words : List String) : Usage :=
  match readGroup false words with
  | .error usage => usage
  | .ok _ => .wrong

def readDoctor (words : List String) : Except Usage Command := do
  match ← readGroup false words with
  | ("run", rest) => readBare .checkUp false false rest
  | ("setup-jira", rest) => readBare .setUp false false rest
  | (name, rest) => .error (noCommand (name :: rest))

-- The command of a command line. To ask for help wins over words that are missing or too many, but not over an option
-- that cannot be read.
def ofWords (words : List String) : Except Usage Command := do
  match ← readGroup false words with
  | ("resolve", rest) => readResolve rest
  | ("doctor", rest) => readDoctor rest
  | (name, rest) => .error (noCommand (name :: rest))

end Command
end RelatedIssues
