import RelatedIssues.Json.Basic
import RelatedIssues.Text.Hex
import RelatedIssues.Text.Surrogate

namespace RelatedIssues.Json

inductive Nest where
  | array
  | object
  deriving DecidableEq, Repr

inductive Cause where
  | value
  | name
  | colon
  | comma
  | surplus
  | openString
  | control
  | escape
  | unicode
  | digits (count : Nat)
  | depth (nest : Nest)
  deriving DecidableEq, Repr

-- A text that is no token ends in a flaw, which is reported only if a value is expected there.
inductive Token where
  | openArray
  | closeArray
  | openObject
  | closeObject
  | colon
  | comma
  | str (s : String)
  | value (j : Json)
  | flaw (cause : Cause) (at_ : Nat)

def isSpace (c : Char) : Bool :=
  c = ' ' || c = '\t' || c = '\n' || c = '\r'

-- The character after a backslash, and the character that the two stand for.
def escapes : List (Char × Char) :=
  [('"', '"'), ('\\', '\\'), ('/', '/'), ('b', '\x08'), ('f', '\x0C'), ('n', '\n'), ('r', '\r'),
    ('t', '\t')]

namespace StringBody

-- Where the reader of a string stands: between characters, after a backslash, or after the `u` at `at_`
-- with `left` more digits to come.
inductive State where
  | plain
  | backslash (at_ : Nat)
  | digits (at_ left code : Nat)

open Text in
-- Reads a string that was opened at `start` from place `pos` up to its closing quote: its text, and the
-- place after the quote. A surrogate without its other half becomes the replacement character.
def read (start : Nat) (pos : Nat) (half : Option Nat) :
    State → List Char → Except (Cause × Nat) (List Char × Nat)
  | .plain, [] => .error (.openString, start)
  | .backslash _, [] => .error (.openString, start)
  | .digits at_ .., [] => .error (.unicode, at_)
  | .plain, c :: rest =>
    if c = '"' then .ok (lone half, pos + 1)
    else if c = '\\' then read start (pos + 1) half (.backslash pos) rest
    else if c.toNat < 0x20 then .error (.control, pos)
    else (read start (pos + 1) none .plain rest).map fun r => (lone half ++ c :: r.1, r.2)
  | .backslash at_, c :: rest =>
    if c = 'u' then read start (pos + 1) half (.digits pos 4 0) rest
    else match escapes.lookup c with
      | some e => (read start (pos + 1) none .plain rest).map fun r => (lone half ++ e :: r.1, r.2)
      | none => .error (.escape, at_)
  | .digits at_ left code, c :: rest =>
    match hexDigit? c with
    | none => .error (.unicode, at_)
    | some d =>
      let code := code * 16 + d
      if 1 < left then read start (pos + 1) half (.digits at_ (left - 1) code) rest
      else if rest.isEmpty then .error (.unicode, at_)
      else
        let (text, half) := put half code
        (read start (pos + 1) half .plain rest).map fun r => (text ++ r.1, r.2)

end StringBody

def digits (s : List Char) : List Char :=
  s.takeWhile Char.isDigit

def natOf (ds : List Char) : Nat :=
  ds.foldl (fun n d => n * 10 + (d.toNat - '0'.toNat)) 0

-- The digits of a whole part: one zero, or digits that do not start with one.
def wholePart : List Char → List Char
  | '0' :: _ => ['0']
  | s => digits s

def fraction : List Char → List Char
  | '.' :: rest => digits rest
  | _ => []

-- The sign and the digits of an exponent, and how many characters it takes.
def exponent : List Char → Option (Bool × List Char × Nat)
  | c :: rest =>
    if c = 'e' ∨ c = 'E' then
      let (signed, negative, rest) := match rest with
        | '+' :: rest => (1, false, rest)
        | '-' :: rest => (1, true, rest)
        | rest => (0, false, rest)
      let ds := digits rest
      if ds.isEmpty then none else some (negative, ds, 1 + signed + ds.length)
    else none
  | [] => none

def maxDigits : Nat := 4300

def wholeToken (pos : Nat) (negative : Bool) (ds : List Char) : Token :=
  if maxDigits < ds.length then .flaw (.digits ds.length) pos
  else
    let n : Int := natOf ds
    .value (.int (if negative then -n else n))

-- The number at the start of a text at place `pos`, and how many characters it takes. A point or an
-- exponent that lacks digits is not part of it.
def number? (pos : Nat) (s : List Char) : Option (Token × Nat) :=
  let negative := s.head? = some '-'
  let body := if negative then s.drop 1 else s
  let sign := if negative then 1 else 0
  let whole := wholePart body
  if whole.isEmpty then none
  else
    let afterWhole := body.drop whole.length
    let decimals := fraction afterWhole
    let point := if decimals.isEmpty then 0 else 1 + decimals.length
    match exponent (afterWhole.drop point) with
    | none =>
      if decimals.isEmpty then some (wholeToken pos negative whole, sign + whole.length)
      else
        let x := Double.ofDecimal negative (natOf (whole ++ decimals)) (-decimals.length)
        some (.value (.real x), sign + whole.length + point)
    | some (down, ds, size) =>
      let e : Int := natOf ds
      let x := Double.ofDecimal negative (natOf (whole ++ decimals))
        ((if down then -e else e) - decimals.length)
      some (.value (.real x), sign + whole.length + point + size)

def words : List (List Char × Json) :=
  [("null".toList, .null), ("true".toList, .bool true), ("false".toList, .bool false),
    ("NaN".toList, .real .nan), ("Infinity".toList, .real (.infinite false)),
    ("-Infinity".toList, .real (.infinite true))]

-- The token at the start of a text that is at place `pos`, and how many characters it takes.
def tokenAt (pos : Nat) (c : Char) (rest : List Char) : Token × Nat :=
  match c with
  | '[' => (.openArray, 1)
  | ']' => (.closeArray, 1)
  | '{' => (.openObject, 1)
  | '}' => (.closeObject, 1)
  | ':' => (.colon, 1)
  | ',' => (.comma, 1)
  | '"' =>
    match StringBody.read pos (pos + 1) none .plain rest with
    | .ok (s, stop) => (.str (.ofList s), stop - pos)
    | .error (cause, place) => (.flaw cause place, 1)
  | _ =>
    match words.find? (·.1.isPrefixOf (c :: rest)) with
    | some (word, j) => (.value j, word.length)
    | none =>
      (number? pos (c :: rest)).getD (.flaw .value pos, 1)

-- The tokens of a text that is at place `pos`, after `skip` characters that were read before.
def tokensFrom (pos skip : Nat) : List Char → List (Nat × Token)
  | [] => []
  | c :: rest =>
    match skip with
    | skip + 1 => tokensFrom (pos + 1) skip rest
    | 0 =>
      if isSpace c then tokensFrom (pos + 1) 0 rest
      else
        let (token, size) := tokenAt pos c rest
        (pos, token) :: tokensFrom (pos + 1) (size - 1) rest

def tokens (s : List Char) : List (Nat × Token) :=
  tokensFrom 0 0 s

end RelatedIssues.Json
