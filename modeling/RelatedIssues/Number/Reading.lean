import RelatedIssues.Number.Double
import RelatedIssues.Text.Blank

namespace RelatedIssues.Number

-- Blanks around numbers: those of every script, without the information separators.
def isSpace (c : Char) : Bool :=
  Text.isBlank c && !(0x1C ≤ c.toNat && c.toNat ≤ 0x1F)

def digitValue (c : Char) : Nat :=
  c.toNat - '0'.toNat

def natOf (ds : List Char) : Nat :=
  ds.foldl (fun n d => n * 10 + digitValue d) 0

def splitSign : List Char → Bool × List Char
  | '-' :: rest => (true, rest)
  | '+' :: rest => (false, rest)
  | s => (false, s)

-- The text without its underscores, none of which may stand at an end or beside another.
def withoutUnderscores? (s : List Char) : Option (List Char) :=
  if s.head? = some '_' ∨ s.getLast? = some '_' ∨ (s.zip (s.drop 1)).contains ('_', '_') then none
  else some (s.filter (· ≠ '_'))

inductive Unreadable where
  | tooLong
  | other
  deriving DecidableEq, Repr

def maxLength : Nat := 4300

-- A whole number in its plain form: perhaps a minus sign, and digits without a zero in front.
def plainInt (s : List Char) : Except Unreadable Int :=
  let negative := s.head? = some '-'
  let body := if negative then s.drop 1 else s
  let ds := body.takeWhile Char.isDigit
  if body = ['0'] then .ok 0
  else if ds = [] ∨ ds.head? = some '0' then .error .other
  else if maxLength < s.length - body.length + ds.length then .error .tooLong
  else if ds.length < body.length then .error .other
  else
    let n : Int := natOf ds
    .ok (if negative then -n else n)

-- The text without the zeros in front of a number, among which underscores may stand. One zero stays
-- before a point and at the end.
def withoutZeros? (s : List Char) : Option (List Char) :=
  match s with
  | '0' :: _ =>
    let zeros := s.takeWhile fun c => c = '0' || c = '_'
    match s.drop zeros.length with
    | [] => some (zeros.drop (zeros.length - 1))
    | c :: rest =>
      if c = '.' then some (zeros.drop (zeros.length - 1) ++ c :: rest)
      else if c.isDigit ∨ c = '-' then some (c :: rest)
      else none
  | c :: _ => if c.isDigit ∨ c = '-' then some s else none
  | [] => none

def withoutZeroFraction (s : List Char) : List Char :=
  match s.dropWhile (· ≠ '.') with
  | '.' :: zeros =>
    if zeros ≠ [] ∧ zeros.all (· = '0') then s.takeWhile (· ≠ '.') else s
  | _ => s

def withoutPlus? : List Char → Option (List Char)
  | '+' :: '-' :: _ => none
  | '+' :: rest => some rest
  | s => some s

-- The plain form of a whole number that has blanks around it, a plus sign or zeros in front, a point
-- with zeros behind, or underscores inside.
def plainForm? (s : List Char) : Option (List Char) := do
  let s ← withoutPlus? (Text.trimBy isSpace s)
  let s := withoutZeroFraction (← withoutZeros? s)
  return (withoutUnderscores? s).getD s

def readInt (text : String) : Except Unreadable Int :=
  match plainInt text.toList with
  | .error .other =>
    match plainForm? text.toList with
    | some s => plainInt s
    | none => .error .other
  | result => result

def exponent? : List Char → Option Int
  | [] => some 0
  | c :: rest =>
    if c = 'e' ∨ c = 'E' then
      let (negative, ds) := splitSign rest
      if ds ≠ [] ∧ ds.all Char.isDigit then
        let n : Int := natOf ds
        some (if negative then -n else n)
      else none
    else none

-- A number without a sign: digits with a point anywhere among them and perhaps an exponent, or a word
-- for what is not finite.
def unsigned? (negative : Bool) (s : List Char) : Option Double :=
  let word := s.map Char.toLower
  if word = "inf".toList ∨ word = "infinity".toList then some (.infinite negative)
  else if word = "nan".toList then some .nan
  else
    let whole := s.takeWhile Char.isDigit
    let rest := s.drop whole.length
    let decimals := match rest with
      | '.' :: rest => rest.takeWhile Char.isDigit
      | _ => []
    let tail := match rest with
      | '.' :: rest => rest.drop decimals.length
      | _ => rest
    if whole = [] ∧ decimals = [] then none
    else (exponent? tail).map fun e =>
      .ofDecimal negative (natOf (whole ++ decimals)) (e - decimals.length)

def plain? (s : List Char) : Option Double :=
  let (negative, body) := splitSign s
  unsigned? negative body

def readDouble? (text : String) : Option Double :=
  plain? (Text.trimBy isSpace text.toList) <|> (withoutUnderscores? text.toList).bind plain?

end RelatedIssues.Number
