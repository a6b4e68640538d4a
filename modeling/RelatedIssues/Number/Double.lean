namespace RelatedIssues

def twoTo (n : Nat) : Nat :=
  Nat.pow 2 n

def tenTo (n : Nat) : Nat :=
  Nat.pow 10 n

-- A double: `± significand * 2 ^ exponent`, an infinity, or no number at all. A finite double has a
-- significand below `2 ^ 53`, and one of at least `2 ^ 52` unless its exponent is the least.
inductive Double where
  | finite (negative : Bool) (significand : Nat) (exponent : Int)
  | infinite (negative : Bool)
  | nan
  deriving DecidableEq, Repr, Inhabited

namespace Double

def leastExponent : Int := -1074

def greatestExponent : Int := 971

def zero : Double :=
  .finite false 0 leastExponent

-- A ratio with a power of two taken out of it: `num / den = r * 2 ^ e` for the ratio `r`.
def scaled (num den : Nat) (e : Int) : Nat × Nat :=
  if 0 ≤ e then (num, den * twoTo e.toNat) else (num * twoTo (-e).toNat, den)

def roundHalfEven (num den : Nat) : Nat :=
  let whole := num / den
  let rest := 2 * (num % den)
  if den < rest ∨ (rest = den ∧ whole % 2 = 1) then whole + 1 else whole

-- The exponent of the double nearest to `num / den`, before rounding.
def exponentFor (num den : Nat) : Int :=
  let guess : Int := Nat.log2 num - Nat.log2 den - 52
  let ratio := scaled num den guess
  max leastExponent (if ratio.1 / ratio.2 < twoTo 52 then guess - 1 else guess)

-- The double nearest to `± num / den`.
def ofRatio (negative : Bool) (num den : Nat) : Double :=
  if num = 0 ∨ den = 0 then .finite negative 0 leastExponent
  else
    let e := exponentFor num den
    let ratio := scaled num den e
    let m := roundHalfEven ratio.1 ratio.2
    let (m, e) := if m = twoTo 53 then (twoTo 52, e + 1) else (m, e)
    if greatestExponent < e then .infinite negative else .finite negative m e

def ofInt (n : Int) : Double :=
  ofRatio (n < 0) n.natAbs 1

def ofDecimal (negative : Bool) (digits : Nat) (e : Int) : Double :=
  if digits = 0 then .finite negative 0 leastExponent
  else if 400 < e then .infinite negative
  else if e < -(Nat.log2 digits + 400 : Int) then .finite negative 0 leastExponent
  else if 0 ≤ e then ofRatio negative (digits * tenTo e.toNat) 1
  else ofRatio negative digits (tenTo (-e).toNat)

def isZero : Double → Bool
  | .finite _ m _ => m = 0
  | _ => false

def ofDyadic (n : Int) (e : Int) : Double :=
  if 0 ≤ e then ofRatio (n < 0) (n.natAbs * twoTo e.toNat) 1
  else ofRatio (n < 0) n.natAbs (twoTo (-e).toNat)

def signed (negative : Bool) (m : Nat) : Int :=
  if negative then -m else m

def neg : Double → Double
  | .finite s m e => .finite (!s) m e
  | .infinite s => .infinite (!s)
  | .nan => .nan

def add : Double → Double → Double
  | .finite s m e, .finite s' m' e' =>
    let low := min e e'
    let sum := signed s m * twoTo (e - low).toNat + signed s' m' * twoTo (e' - low).toNat
    if sum = 0 then .finite (s && s') 0 leastExponent else ofDyadic sum low
  | .infinite s, .infinite s' => if s = s' then .infinite s else .nan
  | .infinite s, .finite .. => .infinite s
  | .finite .., .infinite s => .infinite s
  | .nan, _ => .nan
  | _, .nan => .nan

def sub (x y : Double) : Double :=
  add x (neg y)

def scale (x : Double) (k : Nat) : Double :=
  match x with
  | .finite s m e => if m = 0 then x else ofDyadic (signed s m * k) e
  | _ => x

-- The whole part, toward zero; none for what is not finite.
def truncate? : Double → Option Int
  | .finite s m e =>
    some (signed s (if 0 ≤ e then m * twoTo e.toNat else m / twoTo (-e).toNat))
  | _ => none

def toInt? : Double → Option Int
  | .finite s m e =>
    if 0 ≤ e then some (signed s (m * twoTo e.toNat))
    else if m % twoTo (-e).toNat = 0 then some (signed s (m / twoTo (-e).toNat))
    else none
  | _ => none

def isFinite : Double → Bool
  | .finite .. => true
  | _ => false

def isPositive : Double → Bool
  | .finite s m _ => !s && m ≠ 0
  | .infinite s => !s
  | .nan => false

end Double
end RelatedIssues
