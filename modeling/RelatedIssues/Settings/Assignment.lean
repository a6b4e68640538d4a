import RelatedIssues.Table
import RelatedIssues.Text.Blank

namespace RelatedIssues

-- A name and the text after its `=`; a name alone sets nothing.
structure Assignment where
  name  : String
  value : Option (List Char)
  deriving DecidableEq, Repr

namespace Assignment

-- What was read and what follows it, or what follows the place where reading stopped.
abbrev Reading (α : Type) := Except (List Char) (α × List Char)

def isInlineBlank (c : Char) : Bool :=
  Text.isBlank c && c ≠ '\n'

def skipInline (s : List Char) : List Char :=
  s.dropWhile isInlineBlank

-- What follows the word `export` and the blanks after it. Without blanks the word is a name.
def skipExport (s : List Char) : List Char :=
  if "export".toList.isPrefixOf s && (s.drop 6).head?.any isInlineBlank then skipInline (s.drop 6) else s

def isNameChar (c : Char) : Bool :=
  !(c = '=' || c = '#' || Text.isBlank c)

-- A name, perhaps between single quotes; a comment has none.
def readName : List Char → Reading (Option (List Char))
  | '#' :: rest => .ok (none, '#' :: rest)
  | '\'' :: rest =>
    let name := rest.takeWhile (· ≠ '\'')
    match rest.drop name.length with
    | '\'' :: after => if name = [] then .error ('\'' :: rest) else .ok (some name, after)
    | _ => .error ('\'' :: rest)
  | s =>
    let name := s.takeWhile isNameChar
    if name = [] then .error s else .ok (some name, s.drop name.length)

-- How many characters stand before the quote that closes a value: the first quote that no backslash
-- escapes, or the last quote if every one is escaped. A backslash that is escaped itself escapes
-- nothing.
def closing? (quote : Char) (afterBackslash : Bool) : List Char → Option Nat
  | [] => none
  | c :: rest =>
    if c = quote then
      if afterBackslash then some ((closing? quote false rest).elim 0 (· + 1)) else some 0
    else
      (closing? quote (c = '\\' && !afterBackslash) rest).map (· + 1)

def singleEscapes : List (Char × Char) :=
  [('\\', '\\'), ('\'', '\'')]

def doubleEscapes : List (Char × Char) :=
  [('\\', '\\'), ('\'', '\''), ('"', '"'), ('a', '\x07'), ('b', '\x08'), ('f', '\x0C'), ('n', '\n'),
    ('r', '\r'), ('t', '\t'), ('v', '\x0B')]

-- The text with its escapes replaced. A backslash before another character stays.
def unescape (escapes : List (Char × Char)) : List Char → List Char
  | [] => []
  | [c] => [c]
  | c :: d :: rest =>
    match if c = '\\' then escapes.lookup d else none with
    | some e => e :: unescape escapes rest
    | none => c :: unescape escapes (d :: rest)

-- The text before a `#` that follows a blank.
def beforeComment (afterBlank : Bool) : List Char → List Char
  | [] => []
  | c :: rest =>
    if c = '#' && afterBlank then [] else c :: beforeComment (Text.isBlank c) rest

def readQuoted (quote : Char) (escapes : List (Char × Char)) (rest : List Char) : Reading (List Char) :=
  match closing? quote false rest with
  | some n => .ok (unescape escapes (rest.take n), rest.drop (n + 1))
  | none => .error (quote :: rest)

-- A value without quotes: the rest of the line, without a comment and the blanks before it.
def readPlain (s : List Char) : List Char × List Char :=
  let line := s.takeWhile (· ≠ '\n')
  (Text.trimEndBy Text.isBlank (beforeComment false line), s.drop line.length)

def readValue : List Char → Reading (List Char)
  | '\'' :: rest => readQuoted '\'' singleEscapes rest
  | '"' :: rest => readQuoted '"' doubleEscapes rest
  | s => .ok (readPlain s)

def skipComment (s : List Char) : List Char :=
  match skipInline s with
  | '#' :: rest => rest.dropWhile (· ≠ '\n')
  | _ => s

def readEnd (s : List Char) : Reading Unit :=
  match skipInline s with
  | [] => .ok ((), [])
  | '\n' :: rest => .ok ((), rest)
  | _ => .error s

-- The value after a name, if an `=` follows. A comment right after it leaves the value empty if there
-- is a blank before the comment.
def readAssigned (s : List Char) : Reading (Option (List Char)) :=
  match s with
  | '=' :: s =>
    if s.head?.any isInlineBlank ∧ (skipInline s).head? = some '#' then .ok (some [], skipInline s)
    else (readValue (skipInline s)).map fun (value, s) => (some value, s)
  | s => .ok (none, s)

-- One line with an assignment or a comment. Only a value or a name between quotes may hold line feeds.
def readLine (s : List Char) : Except (List Char) (Option Assignment × List Char) := do
  let (name, s) ← readName (skipExport s)
  let (value, s) ← readAssigned (skipInline s)
  let (_, s) ← readEnd (skipComment s)
  return (name.map fun name => { name := .ofList name, value }, s)

def skipLine (s : List Char) : List Char :=
  (s.dropWhile (· ≠ '\n')).drop 1

-- A line that is no assignment is passed over. Line feeds end the lines.
def readLines : (fuel : Nat) → List Char → List Assignment
  | 0, _ => []
  | fuel + 1, s =>
    match s.dropWhile Text.isBlank with
    | [] => []
    | s =>
      match readLine s with
      | .ok (a, rest) => a.toList ++ readLines fuel rest
      | .error rest => readLines fuel (skipLine rest)

-- The assignments of a text. It has no more lines than characters.
def readAll (s : List Char) : List Assignment :=
  readLines s.length s

-- A part of a value: a character, or a reference with the text for a variable that is not set.
inductive Piece where
  | char (c : Char)
  | reference (name : String) (fallback : List Char)
  deriving DecidableEq, Repr

-- The reference whose opening brace has been read, and how many characters it takes up to its closing
-- brace and with it.
def reference? (s : List Char) : Option (Piece × Nat) :=
  let name := s.takeWhile fun c => c ≠ '}' && c ≠ ':'
  match s.drop name.length with
  | '}' :: _ => some (.reference (.ofList name) [], name.length + 1)
  | ':' :: '-' :: rest =>
    let fallback := rest.takeWhile (· ≠ '}')
    if fallback.length < rest.length then
      some (.reference (.ofList name) fallback, name.length + fallback.length + 3)
    else none
  | _ => none

def piecesAfter : (skip : Nat) → List Char → List Piece
  | _, [] => []
  | skip + 1, _ :: rest => piecesAfter skip rest
  | 0, c :: rest =>
    match if c = '$' && rest.head? = some '{' then reference? (rest.drop 1) else none with
    | some (piece, size) => piece :: piecesAfter (size + 1) rest
    | none => .char c :: piecesAfter 0 rest

-- The text of a part. A variable without a value is empty.
def Piece.text (lookup : String → Option (Option String)) : Piece → List Char
  | .char c => [c]
  | .reference name fallback =>
    match lookup name with
    | some value => (value.getD "").toList
    | none => fallback

def expand (lookup : String → Option (Option String)) (value : List Char) : String :=
  .ofList ((piecesAfter 0 value).flatMap (·.text lookup))

-- The variables that assignments set, one after another. A reference means the last assignment before
-- it, or the variable of the environment.
def evaluate (environment : Table String) (assignments : List Assignment) : Table (Option String) :=
  assignments.foldl (fun vars a =>
    let lookup name := vars.get? name <|> (environment.get? name).map some
    vars.insert a.name (a.value.map (expand lookup))) []

end Assignment
end RelatedIssues
