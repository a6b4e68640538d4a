import RelatedIssues.Number.Double

namespace RelatedIssues

-- A decimal: `digits * 10 ^ exponent`.
structure Decimal where
  digits   : Nat
  exponent : Int
  deriving DecidableEq, Repr, Inhabited

namespace Decimal

def toDouble (d : Decimal) : Double :=
  .ofDecimal false d.digits d.exponent

-- The decimal without zeros at the end of its digits, dropping at most `fuel` of them.
def normalize (d : Decimal) : (fuel : Nat) → Decimal
  | 0 => d
  | fuel + 1 =>
    if d.digits ≠ 0 ∧ d.digits % 10 = 0 then normalize ⟨d.digits / 10, d.exponent + 1⟩ fuel else d

-- How many digits stand before the point in `num / den`; none or fewer for a small ratio.
def pointFor (num den : Nat) : Int :=
  let guess : Int := (Nat.toDigits 10 num).length - (Nat.toDigits 10 den).length
  let reaches :=
    if 0 ≤ guess then den * tenTo guess.toNat ≤ num else den ≤ num * tenTo (-guess).toNat
  if reaches then guess + 1 else guess

-- The neighbours of `num / den` among the multiples of `10 ^ e`, the nearer first; of two at one
-- distance the even one.
def neighbours (num den : Nat) (e : Int) : List Decimal :=
  let (a, b) := if 0 ≤ e then (num, den * tenTo e.toNat) else (num * tenTo (-e).toNat, den)
  let low := a / b
  let rest := 2 * (a % b)
  if rest < b ∨ (rest = b ∧ low % 2 = 0) then [⟨low, e⟩, ⟨low + 1, e⟩]
  else [⟨low + 1, e⟩, ⟨low, e⟩]

-- The decimal with the fewest digits that reads back as the finite double `m * 2 ^ e`. Seventeen digits
-- are always enough.
def shortest (m : Nat) (e : Int) : Decimal :=
  if m = 0 then ⟨0, 0⟩
  else
    let (num, den) := if 0 ≤ e then (m * twoTo e.toNat, 1) else (m, twoTo (-e).toNat)
    let point := pointFor num den
    let candidates := (List.range 17).flatMap fun (n : Nat) => neighbours num den (point - (n + 1))
    let hit := candidates.find? fun d => d.toDouble = .finite false m e
    (hit.getD ⟨0, 0⟩).normalize 20

end Decimal

-- How a number is laid out: the places between which the point is written without an exponent, and the
-- fewest digits of an exponent.
structure NumberLayout where
  leastPoint     : Int
  greatestPoint  : Int
  exponentDigits : Nat

namespace NumberLayout

def zeros (n : Int) : List Char :=
  List.replicate n.toNat '0'

def positional (ds : List Char) (point : Int) : List Char :=
  if point ≤ 0 then '0' :: '.' :: zeros (-point) ++ ds
  else if ds.length ≤ point then ds ++ zeros (point - ds.length) ++ ['.', '0']
  else ds.take point.toNat ++ '.' :: ds.drop point.toNat

def scientific (layout : NumberLayout) (ds : List Char) (point : Int) : List Char :=
  let e := point - 1
  let digits := Nat.toDigits 10 e.natAbs
  let fraction := match ds.drop 1 with
    | [] => []
    | rest => '.' :: rest
  ds.take 1 ++ fraction ++ 'e' :: (if e < 0 then '-' else '+') ::
    zeros (layout.exponentDigits - digits.length) ++ digits

def render (layout : NumberLayout) (d : Decimal) : List Char :=
  let ds := Nat.toDigits 10 d.digits
  let point := if d.digits = 0 then 1 else ds.length + d.exponent
  if layout.leastPoint ≤ point ∧ point ≤ layout.greatestPoint then positional ds point
  else layout.scientific ds point

variable {layout : NumberLayout} {ds : List Char} {point : Int} {d : Decimal}

theorem positional_ne_nil : positional ds point ≠ [] := by
  unfold positional
  split
  case isTrue => simp
  case isFalse => split <;> simp

theorem scientific_ne_nil : layout.scientific ds point ≠ [] := by
  simp [scientific]

theorem render_ne_nil : layout.render d ≠ [] := by
  unfold render
  lift_lets
  intro ds point
  split
  case isTrue => exact positional_ne_nil
  case isFalse => exact scientific_ne_nil

end NumberLayout

-- Doubles from a ten-thousandth up to ten to the sixteenth are written without an exponent, and a whole
-- one keeps its `.0`.
def Double.layout : NumberLayout where
  leastPoint     := -3
  greatestPoint  := 16
  exponentDigits := 2

def Double.text (infinity notANumber : String) : Double → String
  | .finite s m e => .ofList ((if s then ['-'] else []) ++ layout.render (Decimal.shortest m e))
  | .infinite s => (if s then "-" else "") ++ infinity
  | .nan => notANumber

theorem Double.text_ne_empty {x : Double} {infinity notANumber : String} (hi : infinity ≠ "")
    (hn : notANumber ≠ "") : x.text infinity notANumber ≠ "" := by
  cases x
  case finite => simp [text, NumberLayout.render_ne_nil]
  case infinite s => cases s <;> simp [text, hi]
  case nan => exact hn

end RelatedIssues
