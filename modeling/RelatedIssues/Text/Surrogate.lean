namespace RelatedIssues.Text

def replacement : Char := '\uFFFD'

-- A high surrogate that waits for a low one in vain.
def lone (high : Option Nat) : List Char :=
  if high.isSome then [replacement] else []

-- What a code unit adds to the text, and the high surrogate that then waits.
def put (high : Option Nat) (unit : Nat) : List Char × Option Nat :=
  if 0xD800 ≤ unit ∧ unit < 0xDC00 then (lone high, some unit)
  else if 0xDC00 ≤ unit ∧ unit < 0xE000 then
    match high with
    | some high => ([Char.ofNat (0x10000 + (high - 0xD800) * 0x400 + (unit - 0xDC00))], none)
    | none => ([replacement], none)
  else (lone high ++ [Char.ofNat unit], none)

end RelatedIssues.Text
