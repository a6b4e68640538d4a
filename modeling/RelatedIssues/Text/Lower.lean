import RelatedIssues.Text.CaseTables

namespace RelatedIssues.Text

def CaseRun.lower? (run : CaseRun) (n : Nat) : Option Nat :=
  if run.1 ≤ n ∧ n ≤ run.2.1 ∧ (n - run.1) % run.2.2.1 = 0 then
    some (run.2.2.2 + (n - run.1))
  else
    none

-- The lower form of a character whose lower form is one character.
def lowerChar (c : Char) : Char :=
  if c.toNat < 128 then c.toLower
  else (capitalRuns.findSome? (·.lower? c.toNat)).elim c Char.ofNat

def isCased (c : Char) : Bool :=
  casedSpans.contains c

def isCaseIgnorable (c : Char) : Bool :=
  caseIgnorableSpans.contains c

def capitalSigma : Char := Char.ofNat 0x3A3

def dottedCapitalI : Char := Char.ofNat 0x130

-- Whether the nearest character that counts for case has case.
def meetsCased (s : List Char) : Bool :=
  (s.dropWhile isCaseIgnorable).head?.any isCased

-- The lower form of `c` between `before`, nearest first, and `after`.
def lowerBetween (before : List Char) (c : Char) (after : List Char) : List Char :=
  if c = capitalSigma then
    [Char.ofNat (if meetsCased before && !meetsCased after then 0x3C2 else 0x3C3)]
  else if c = dottedCapitalI then
    ['i', Char.ofNat 0x307]
  else
    [lowerChar c]

def lowerAfter (before : List Char) : List Char → List Char
  | [] => []
  | c :: rest => lowerBetween before c rest ++ lowerAfter (c :: before) rest

def lower (s : List Char) : List Char :=
  lowerAfter [] s

@[simp]
theorem lower_nil : lower [] = [] :=
  rfl

end RelatedIssues.Text
