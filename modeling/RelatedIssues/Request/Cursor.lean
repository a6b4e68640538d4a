import RelatedIssues.Text.Blank
import RelatedIssues.Text.Letter

namespace RelatedIssues

-- A place in a text that moves forward. Every step returns what it read and the place after it.
structure Cursor where
  text : List Char
  pos  : Nat
  deriving DecidableEq, Repr

namespace Cursor

def start (text : List Char) : Cursor :=
  { text, pos := 0 }

-- What has not been read yet.
def rest (c : Cursor) : List Char :=
  c.text.drop c.pos

def advance (c : Cursor) (n : Nat) : Cursor :=
  { c with pos := c.pos + n }

def skipBlanks (c : Cursor) : Cursor :=
  c.advance (c.rest.takeWhile Text.isBlank).length

def peek (c : Cursor) : List Char :=
  c.rest.take 1

-- Skips blanks, and then the next character if it is the one asked for.
def take (c : Cursor) (wanted : List Char) : Bool × Cursor :=
  let c := c.skipBlanks
  if c.peek = wanted then (true, c.advance 1) else (false, c)

def isWordChar (c : Char) : Bool :=
  Text.isLetter c || c = '-'

def takeWord (c : Cursor) : List Char × Cursor :=
  let word := c.rest.takeWhile isWordChar
  (word, c.advance word.length)

-- How many characters stand before the first place where `stop` starts.
def distance? (stop : List Char) : List Char → Option Nat
  | [] => if stop = [] then some 0 else none
  | c :: rest => if stop.isPrefixOf (c :: rest) then some 0 else (distance? stop rest).map (· + 1)

-- The text before `stop`, and the place one character after it; without `stop` ahead the cursor stays.
def takeUntil (c : Cursor) (stop : List Char) : Option (List Char) × Cursor :=
  match if c.pos ≤ c.text.length then distance? stop c.rest else none with
  | some n => (some (c.rest.take n), c.advance (n + 1))
  | none => (none, c)

@[simp]
theorem rest_start {text : List Char} : (start text).rest = text :=
  rfl

@[simp]
theorem rest_advance {c : Cursor} {n : Nat} : (c.advance n).rest = c.rest.drop n := by
  simp [advance, rest, List.drop_drop]

theorem drop_length_takeWhile (p : Char → Bool) (s : List Char) :
    s.drop (s.takeWhile p).length = s.dropWhile p := by
  induction s with
  | nil => rfl
  | cons c s ih => by_cases h : p c <;> simp [h, ih]

@[simp]
theorem rest_skipBlanks {c : Cursor} : c.skipBlanks.rest = c.rest.dropWhile Text.isBlank := by
  simp [skipBlanks, drop_length_takeWhile]

@[simp]
theorem rest_takeWord {c : Cursor} : c.takeWord.2.rest = c.rest.dropWhile isWordChar := by
  simp [takeWord, drop_length_takeWhile]

end Cursor
end RelatedIssues
