import RelatedIssues.Text.Hex
import RelatedIssues.Text.Surrogate

namespace RelatedIssues.Text

inductive Endian where
  | big
  | little
  deriving DecidableEq, Repr

def Endian.word : Endian → String
  | big => "be"
  | little => "le"

def Endian.unit : Endian → List UInt8 → Nat
  | big, bs => bs.foldl (fun n b => n * 256 + b.toNat) 0
  | little, bs => bs.foldr (fun b n => n * 256 + b.toNat) 0

-- Octets that are no text in an encoding: where they start, what they are, and what is wrong.
structure BadOctets where
  encoding : String
  start    : Nat
  octets   : List UInt8
  reason   : String
  deriving DecidableEq, Repr

namespace BadOctets

def message (f : BadOctets) : String :=
  "'" ++ f.encoding ++ "' codec can't decode " ++
    (match f.octets with
      | [b] => "byte 0x" ++ .ofList (hex 2 b.toNat) ++ " in position " ++ toString f.start
      | bs =>
        "bytes in position " ++ toString f.start ++ "-" ++ toString (f.start + bs.length - 1)) ++
    ": " ++ f.reason

def truncated (encoding : String) (start : Nat) (octets : List UInt8) : BadOctets :=
  { encoding, start, octets, reason := "truncated data" }

end BadOctets

-- The text of units of two octets from place `pos` on.
def ofUnits16 (e : Endian) (pos : Nat) (high : Option Nat) : List UInt8 → Except BadOctets (List Char)
  | [] => .ok (lone high)
  | [b] => .error (.truncated ("utf-16-" ++ e.word) pos [b])
  | a :: b :: rest => do
    let (text, high) := put high (e.unit [a, b])
    return text ++ (← ofUnits16 e (pos + 2) high rest)

-- The text of units of four octets from place `pos` on.
def ofUnits32 (e : Endian) (pos : Nat) : List UInt8 → Except BadOctets (List Char)
  | [] => .ok []
  | a :: b :: c :: d :: rest => do
    let n := e.unit [a, b, c, d]
    if 0x110000 ≤ n then
      .error ⟨"utf-32-" ++ e.word, pos, [a, b, c, d], "code point not in range(0x110000)"⟩
    else
      let char := if 0xD800 ≤ n ∧ n < 0xE000 then replacement else Char.ofNat n
      return char :: (← ofUnits32 e (pos + 4) rest)
  | bs => .error (.truncated ("utf-32-" ++ e.word) pos bs)

end RelatedIssues.Text
