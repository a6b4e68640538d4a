import RelatedIssues.Text.MarkTables

namespace RelatedIssues.Text

-- The class that orders a mark; letters have class zero.
def markClass (c : Char) : Nat :=
  ((markClasses.find? fun span => span.1 ≤ c.toNat && c.toNat ≤ span.2.1).map (·.2.2)).getD 0

def parts? (c : Char) : Option (Char × Char) :=
  if c.toNat < 128 then none
  else (composites.find? (·.1 = c.toNat)).map fun entry => (.ofNat entry.2.1, .ofNat entry.2.2)

-- The Korean syllable of an initial and a vowel, or of a syllable that ends in a vowel and a final. The
-- syllables stand in the order of 19 initials, 21 vowels and 28 ends, of which the first is none.
def syllable? (first second : Char) : Option Char :=
  let first := first.toNat
  let second := second.toNat
  if 0x1100 ≤ first ∧ first < 0x1113 ∧ 0x1161 ≤ second ∧ second < 0x1176 then
    some (.ofNat (0xAC00 + ((first - 0x1100) * 21 + (second - 0x1161)) * 28))
  else if 0xAC00 ≤ first ∧ first ≤ 0xD7A3 ∧ (first - 0xAC00) % 28 = 0 ∧ 0x11A8 ≤ second ∧
      second < 0x11C3 then
    some (.ofNat (first + (second - 0x11A7)))
  else none

def compose? (first second : Char) : Option Char :=
  if second.toNat < 128 then none
  else
    ((composites.find? fun entry => entry.2.1 = first.toNat && entry.2.2 = second.toNat).map
      fun entry => .ofNat entry.1) <|> syllable? first second

-- A letter and its marks. No letter has more than `fuel` marks.
def decomposeChar : (fuel : Nat) → Char → List Char
  | 0, c => [c]
  | fuel + 1, c =>
    match parts? c with
    | some (first, second) => decomposeChar fuel first ++ [second]
    | none => [c]

-- A character in front of a text whose marks are in order, moved behind the marks that go first.
def insertMark (c : Char) : List Char → List Char
  | [] => [c]
  | d :: rest =>
    if 0 < markClass d ∧ markClass d < markClass c then d :: insertMark c rest else c :: d :: rest

def decompose (s : List Char) : List Char :=
  (s.flatMap (decomposeChar 3)).foldr insertMark []

-- The composed form of a letter, the marks that stayed behind it, the last one first, and what follows.
-- A mark meets the letter unless one of its own class or above stands between them.
def composeFrom (letter : Char) (behind : List Char) : List Char → List Char
  | [] => letter :: behind.reverse
  | c :: rest =>
    let meets := behind.head?.all (markClass · < markClass c)
    match if meets then compose? letter c else none with
    | some composed => composeFrom composed behind rest
    | none =>
      if markClass c = 0 then letter :: behind.reverse ++ composeFrom c [] rest
      else composeFrom letter (c :: behind) rest

-- A letter and its marks are one character where there is one.
def compose : List Char → List Char
  | [] => []
  | c :: rest => composeFrom c [] rest

def isComposed (s : List Char) : Bool :=
  !s.any replaced.contains && compose (decompose s) = s

end RelatedIssues.Text
