namespace RelatedIssues.Url.Punycode

def digitOf (n : Nat) : Char :=
  Char.ofNat (if n < 26 then 0x61 + n else 0x30 + (n - 26))

def digitValue? (c : Char) : Option Nat :=
  if 'a' ≤ c ∧ c ≤ 'z' then some (c.toNat - 'a'.toNat)
  else if c.isDigit then some (c.toNat - '0'.toNat + 26)
  else none

def threshold (bias j : Nat) : Nat :=
  min 26 (max 1 (36 * (j + 1) - bias))

theorem threshold_pos {bias j : Nat} : 1 ≤ threshold bias j := by
  unfold threshold
  omega

-- How often a way is divided until it is short, and what is left of it.
def settle (delta divisions : Nat) : Nat × Nat :=
  if 455 < delta then settle (delta / 35) (divisions + 36) else (delta, divisions)
termination_by delta
decreasing_by omega

-- The bias after a way, when the label has `size` characters. The first way is the longest.
def adapt (first : Bool) (delta size : Nat) : Nat :=
  let delta := delta / (if first then 700 else 2)
  let (delta, divisions) := settle (delta + delta / size) 0
  divisions + 36 * delta / (delta + 38)

def digits (bias j n : Nat) : List Char :=
  let t := threshold bias j
  if n < t then [digitOf n]
  else digitOf (t + (n - t) % (36 - t)) :: digits bias (j + 1) ((n - t) / (36 - t))
termination_by n
decreasing_by
  have h : 1 ≤ threshold bias j := threshold_pos
  exact Nat.lt_of_le_of_lt (Nat.div_le_self _ _) (by omega)

-- The writer: the digits so far, the way to the next place, the bias, and how many characters are
-- placed.
structure Writer where
  out   : List Char := []
  delta : Nat := 0
  bias  : Nat := 72
  size  : Nat

-- Passes a character of the label on the way to those with code point `n`.
def Writer.pass (basic n : Nat) (w : Writer) (c : Char) : Writer :=
  if c.toNat < n then { w with delta := w.delta + 1 }
  else if c.toNat = n then {
    out   := w.out ++ digits w.bias 0 w.delta
    delta := 0
    bias  := adapt (w.size = basic) w.delta (w.size + 1)
    size  := w.size + 1
  }
  else w

-- Writes the characters with the code points that follow `from_`.
def Writer.run (label : List Char) (basic : Nat) : (from_ : Nat) → List Nat → Writer → Writer
  | _, [], w => w
  | from_, n :: rest, w =>
    let w := { w with delta := w.delta + (n - from_) * (w.size + 1) }
    let w := label.foldl (Writer.pass basic n) w
    run label basic (n + 1) rest { w with delta := w.delta + 1 }

def isBasic (c : Char) : Bool :=
  c.toNat < 128

-- The plain characters come first. The others follow in the order of their code points, each as the way from the one
-- before to its place, in digits to the base 36 whose last digit is below a threshold.
def encode (label : List Char) : List Char :=
  let plain := label.filter isBasic
  let others := (((label.filter (!isBasic ·)).map Char.toNat).mergeSort (· ≤ ·)).eraseDups
  let w := Writer.run label plain.length 128 others { size := plain.length }
  plain ++ (if plain = [] then [] else ['-']) ++ w.out

-- The reader: the label so far in code points, the code point and place of its newest one, the bias,
-- and the way as far as it has been read: its length, the weight of the next digit and the number of
-- digits.
structure Reader where
  label  : List Nat
  point  : Nat := 128
  place  : Nat := 0
  bias   : Nat := 72
  first  : Bool := true
  delta  : Nat := 0
  weight : Nat := 1
  digit  : Nat := 0

def Reader.insert (r : Reader) (delta : Nat) : Option Reader :=
  let size := r.label.length + 1
  let point := r.point + (r.place + delta) / size
  let place := (r.place + delta) % size
  if 0x10FFFF < point then none
  else some {
    label := r.label.take place ++ point :: r.label.drop place
    point
    place := place + 1
    bias  := adapt r.first delta size
    first := false
  }

def Reader.run (r : Reader) : List Char → Option (List Nat)
  | [] => if r.digit = 0 then some r.label else none
  | c :: rest =>
    match digitValue? c with
    | none => none
    | some d =>
      let t := threshold r.bias r.digit
      let delta := r.delta + d * r.weight
      if d < t then
        match r.insert delta with
        | some r => run r rest
        | none => none
      else run { r with delta, weight := r.weight * (36 - t), digit := r.digit + 1 } rest

-- The plain characters, those before the last hyphen, and the digits after it.
def splitPlain (s : List Char) : List Char × List Char :=
  let tail := (s.reverse.takeWhile (· ≠ '-')).reverse
  (s.take (s.length - tail.length - 1), tail)

-- The code points of a label. They may be surrogates, which are no characters.
def decode? (s : List Char) : Option (List Nat) :=
  let (plain, tail) := splitPlain s
  Reader.run { label := plain.map Char.toNat } tail

end RelatedIssues.Url.Punycode
