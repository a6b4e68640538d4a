import RelatedIssues.Text.Surrogate

namespace RelatedIssues.Text

def octets (s : List Char) : List UInt8 :=
  s.flatMap String.utf8EncodeChar

-- A character of which `left` octets are still to come, the next one from `low` to `high`.
structure Begun where
  left : Nat
  low  : Nat := 0x80
  high : Nat := 0xBF
  code : Nat

-- The first octet of a character: the character if it is the only one, and what it begins if not.
def firstOctet (n : Nat) : List Char × Option Begun :=
  if n < 0x80 then ([Char.ofNat n], none)
  else if n < 0xC2 ∨ 0xF4 < n then ([replacement], none)
  else if n < 0xE0 then ([], some { left := 1, code := n - 0xC0 })
  else if n = 0xE0 then ([], some { left := 2, low := 0xA0, code := 0 })
  else if n = 0xED then ([], some { left := 2, high := 0x9F, code := 0xD })
  else if n < 0xF0 then ([], some { left := 2, code := n - 0xE0 })
  else if n = 0xF0 then ([], some { left := 3, low := 0x90, code := 0 })
  else if n = 0xF4 then ([], some { left := 3, high := 0x8F, code := 4 })
  else ([], some { left := 3, code := n - 0xF0 })

def takeOctet (begun : Option Begun) (n : Nat) : List Char × Option Begun :=
  match begun with
  | none => firstOctet n
  | some b =>
    if b.low ≤ n ∧ n ≤ b.high then
      let code := b.code * 64 + (n - 0x80)
      if b.left ≤ 1 then ([Char.ofNat code], none) else ([], some { left := b.left - 1, code })
    else
      let (text, begun) := firstOctet n
      (replacement :: text, begun)

def ofOctetsFrom (begun : Option Begun) : List UInt8 → List Char
  | [] => if begun.isSome then [replacement] else []
  | b :: rest => (takeOctet begun b.toNat).1 ++ ofOctetsFrom (takeOctet begun b.toNat).2 rest

-- Octets that are no text are replaced: every longest start of a character, and every octet that starts none, by one
-- replacement character.
def ofOctets (bs : List UInt8) : List Char :=
  ofOctetsFrom none bs

def withoutMark : List Char → List Char
  | '\uFEFF' :: rest => rest
  | s => s

end RelatedIssues.Text
