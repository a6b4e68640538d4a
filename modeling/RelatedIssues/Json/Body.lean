import RelatedIssues.Json.Reader
import RelatedIssues.Text.Utf8
import RelatedIssues.Text.Wide

namespace RelatedIssues

-- How a body is encoded: in octets, or in units of two or four of them.
inductive Encoding where
  | utf8
  | utf16 (e : Text.Endian)
  | utf32 (e : Text.Endian)
  deriving DecidableEq, Repr

-- The text starts with a character of ASCII, so the first zeros among the octets show the width of its units and which
-- octet of them comes first.
def Encoding.detect : List UInt8 → Encoding
  | 0 :: 0 :: _ :: _ :: _ => .utf32 .big
  | 0 :: _ :: _ :: _ :: _ => .utf16 .big
  | _ :: 0 :: 0 :: 0 :: _ => .utf32 .little
  | _ :: 0 :: _ :: _ :: _ => .utf16 .little
  | [0, _] => .utf16 .big
  | [_, 0] => .utf16 .little
  | _ => .utf8

namespace Json

-- Why a body is no JSON: its octets are no text, or the text is no value.
inductive Unreadable where
  | octets (bad : Text.BadOctets)
  | text (fault : Fault)
  deriving DecidableEq, Repr

def Unreadable.message : Unreadable → String
  | octets bad => bad.message
  | text fault => fault.message

-- The text whose octets in another encoding are those of the body in UTF-8.
def bodyText (body : List Char) : Except Text.BadOctets (List Char) :=
  match Encoding.detect (Text.octets (body.take 4)) with
  | .utf8 => .ok body
  | .utf16 e => Text.ofUnits16 e 0 none (Text.octets body)
  | .utf32 e => Text.ofUnits32 e 0 (Text.octets body)

-- Reads the body of a message. A byte order mark tells that it is in UTF-8.
def readBody (body : String) : Except Unreadable Json :=
  let plain := Text.withoutMark body.toList
  match if plain.length < body.length then .ok plain else bodyText plain with
  | .ok text => (readList text).mapError .text
  | .error bad => .error (.octets bad)

end Json
end RelatedIssues
