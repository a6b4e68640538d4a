import RelatedIssues.Text.Composition
import RelatedIssues.Text.Quoted
import RelatedIssues.Url.LabelTables
import RelatedIssues.Url.Punycode

namespace RelatedIssues.Url

-- Why a text is no label. Places count from the first character.
inductive LabelFault where
  | empty
  | notComposed
  | innerHyphens
  | outerHyphen
  | initialMark
  | character (place : Nat)
  | joiner (place : Nat)
  | misplaced (place : Nat)
  | direction
  | inRightToLeft (place : Nat)
  | inLeftToRight (place : Nat)
  | mixedDigits
  | ending
  | nothingEncoded
  | hyphenEncoded
  | unreadable
  deriving DecidableEq, Repr

def LabelFault.kind : LabelFault → String
  | character _ => "InvalidCodepoint"
  | joiner _ => "InvalidCodepointContext"
  | misplaced _ => "InvalidCodepointContext"
  | direction => "IDNABidiError"
  | inRightToLeft _ => "IDNABidiError"
  | inLeftToRight _ => "IDNABidiError"
  | mixedDigits => "IDNABidiError"
  | ending => "IDNABidiError"
  | _ => "IDNAError"

-- A label in code points, some of which may be no characters, and what is wrong with it.
structure BadLabel where
  points : List Nat
  fault  : LabelFault
  deriving DecidableEq, Repr

namespace BadLabel

def kind (b : BadLabel) : String :=
  b.fault.kind

-- A code point as it is shown between quotes. One that is no character is spelled out.
def showPoint (quote : Char) (n : Nat) : List Char :=
  if n.isValidChar then Text.showChar quote (.ofNat n) else '\\' :: 'u' :: Text.hex 4 n

def shown (b : BadLabel) : String :=
  let quote := Text.quoteFor (b.points.map Char.ofNat)
  .ofList (quote :: b.points.flatMap (showPoint quote) ++ [quote])

def codePoint (b : BadLabel) (place : Nat) : String :=
  "U+" ++ (String.ofList (Text.hex 4 (b.points.getD place 0))).toUpper

def message (b : BadLabel) : String :=
  match b.fault with
  | .empty => "Empty Label"
  | .notComposed => "Label must be in Normalization Form C"
  | .innerHyphens => "Label has disallowed hyphens in 3rd and 4th position"
  | .outerHyphen => "Label must not start or end with a hyphen"
  | .initialMark => "Label begins with an illegal combining character"
  | .character place =>
    "Codepoint " ++ b.codePoint place ++ " at position " ++ toString (place + 1) ++ " of " ++ b.shown ++
      " not allowed"
  | .joiner place =>
    "Joiner " ++ b.codePoint place ++ " not allowed at position " ++ toString (place + 1) ++ " in " ++
      b.shown
  | .misplaced place =>
    "Codepoint " ++ b.codePoint place ++ " not allowed at position " ++ toString (place + 1) ++ " in " ++
      b.shown
  | .direction => "First codepoint in label " ++ b.shown ++ " must be directionality L, R or AL"
  | .inRightToLeft place =>
    "Invalid direction for codepoint at position " ++ toString place ++ " in a right-to-left label"
  | .inLeftToRight place =>
    "Invalid direction for codepoint at position " ++ toString place ++ " in a left-to-right label"
  | .mixedDigits => "Can not mix numeral types in a right-to-left label"
  | .ending => "Label ends with illegal codepoint directionality"
  | .nothingEncoded => "Malformed A-label, no Punycode eligible content found"
  | .hyphenEncoded => "A-label must not end with a hyphen"
  | .unreadable => "Invalid A-label"

end BadLabel

namespace Label

def isAllowed (c : Char) : Bool :=
  labelRuns.any (·.contains c.toNat)

def isMark (c : Char) : Bool :=
  marks.contains c

-- A mark that takes no room of its own.
def isFloating (c : Char) : Bool :=
  isMark c && !spacingMarks.contains c

-- The mark that takes the vowel from a letter.
def isVirama (c : Char) : Bool :=
  Text.markClass c = 9

def isGreek : Char → Bool :=
  Text.Spans.contains [(0x370, 0x373), (0x375, 0x377), (0x37B, 0x37D), (0x390, 0x3E1), (0x3F3, 0x3FF),
    (0x1D26, 0x1D2A), (0x1F00, 0x1FFF), (0xAB65, 0xAB65)]

def isHebrew : Char → Bool :=
  Text.Spans.contains [(0x591, 0x5F4), (0xFB1E, 0xFB1E)]

def isKanaOrHan : Char → Bool :=
  Text.Spans.contains [(0x3005, 0x3007), (0x3041, 0x3096), (0x309D, 0x309F), (0x30A1, 0x30FA),
    (0x30FD, 0x30FF), (0x31F0, 0x31FF), (0x3400, 0x9FFF), (0xFA0E, 0xFA29), (0x16FF0, 0x16FF1),
    (0x1AFF0, 0x1B167), (0x20000, 0x3134A)]

def isArabicDigit (c : Char) : Bool :=
  0x660 ≤ c.toNat && c.toNat ≤ 0x669

def isEasternDigit (c : Char) : Bool :=
  0x6F0 ≤ c.toNat && c.toNat ≤ 0x6F9

-- The Arabic letters that join only the letter before them.
def joinsBackward : Char → Bool :=
  Text.Spans.contains [(0x622, 0x625), (0x627, 0x627), (0x629, 0x629), (0x62F, 0x632), (0x648, 0x648),
    (0x671, 0x673), (0x675, 0x677), (0x688, 0x699), (0x6C0, 0x6C0), (0x6C3, 0x6CB), (0x6CD, 0x6CD),
    (0x6CF, 0x6CF), (0x6D2, 0x6D3), (0x6D5, 0x6D5), (0x6EE, 0x6EF), (0x759, 0x75B), (0x76B, 0x76C),
    (0x771, 0x771), (0x773, 0x774), (0x778, 0x779)]

-- The Arabic letters that join the letters on both sides.
def joinsBoth (c : Char) : Bool :=
  Text.Spans.contains [(0x620, 0x620), (0x626, 0x64A), (0x66E, 0x66F), (0x678, 0x6D1), (0x6FA, 0x6FC),
    (0x6FF, 0x6FF), (0x750, 0x77F)] c && !joinsBackward c

-- Whether a letter joins across a joiner from the text before it, nearest first, to the text after it.
-- Marks on the letters do not count.
def joinsAcross (before after : List Char) : Bool :=
  (before.dropWhile isFloating).head?.any joinsBoth &&
    (after.dropWhile isFloating).head?.any fun c => joinsBoth c || joinsBackward c

-- Whether a character may stand between the text before it, nearest first, and the text after it. A
-- joiner follows a virama, or keeps two letters apart that would join; a middle dot stands between two
-- letters `l`; the other characters belong to one script.
def fits (before : List Char) (c : Char) (after : List Char) : Option Bool :=
  let label := before ++ after
  match c.toNat with
  | 0x200C => some (before.head?.any isVirama || joinsAcross before after)
  | 0x200D => some (before.head?.any isVirama)
  | 0xB7 => some (before.head? = some 'l' && after.head? = some 'l')
  | 0x375 => some (after.head?.any isGreek)
  | 0x5F3 => some (before.head?.any isHebrew)
  | 0x5F4 => some (before.head?.any isHebrew)
  | 0x30FB => some (label.any isKanaOrHan)
  | _ =>
    if isArabicDigit c then some (!label.any isEasternDigit)
    else if isEasternDigit c then some (!label.any isArabicDigit)
    else none

-- Checks the characters that follow others, nearest first.
def checkFrom (before : List Char) : List Char → Except LabelFault Unit
  | [] => .ok ()
  | c :: rest =>
    if isAllowed c then checkFrom (c :: before) rest
    else match fits before c rest with
      | some true => checkFrom (c :: before) rest
      | some false =>
        .error (if c.toNat = 0x200C ∨ c.toNat = 0x200D then .joiner before.length
          else .misplaced before.length)
      | none => .error (.character before.length)

inductive Direction where
  | left
  | right
  | number
  | arabicNumber
  | floating
  | neutral
  deriving DecidableEq, Repr

def neutrals : Text.Spans := [
  (0x2D, 0x2D), (0xB7, 0xB7), (0x2B9, 0x2BA), (0x2C6, 0x2CF), (0x2EC, 0x2EC), (0x375, 0x375),
  (0x200C, 0x200D), (0x2E2F, 0x2E2F), (0x30FB, 0x30FB), (0xA67F, 0xA67F), (0xA717, 0xA71F),
  (0xA788, 0xA788)]

def directionOf (c : Char) : Direction :=
  if rightToLeft.contains c then .right
  else if c.isDigit || isEasternDigit c then .number
  else if isArabicDigit c || (0x10D30 ≤ c.toNat && c.toNat ≤ 0x10D39) then .arabicNumber
  else if isFloating c then .floating
  else if neutrals.contains c then .neutral
  else .left

-- Whether a label with these directions may end here: with a letter or digit, and marks on it.
def mayEnd (ds : List Direction) : Bool :=
  match ds.reverse.dropWhile (· = .floating) with
  | d :: _ => d ≠ .neutral
  | [] => false

-- Checks a label that starts from the right: one kind of digits, and nothing from the left.
def checkRightToLeft (digits : Option Direction) (place : Nat) : List Direction → Except LabelFault Unit
  | [] => .ok ()
  | d :: rest =>
    if d = .left then .error (.inRightToLeft place)
    else if d = .number ∨ d = .arabicNumber then
      if digits.all (· = d) then checkRightToLeft (some d) (place + 1) rest else .error .mixedDigits
    else checkRightToLeft digits (place + 1) rest

-- Checks a label that starts from the left: nothing from the right.
def checkLeftToRight (place : Nat) : List Direction → Except LabelFault Unit
  | [] => .ok ()
  | d :: rest =>
    if d = .right ∨ d = .arabicNumber then .error (.inLeftToRight place)
    else checkLeftToRight (place + 1) rest

-- Checks the directions of a label. One without anything from the right needs no check.
def checkDirections (label : List Char) : Except LabelFault Unit := do
  let ds := label.map directionOf
  if !ds.any fun d => d = .right || d = .arabicNumber then return
  match ds.head? with
  | some .right => checkRightToLeft none 1 ds
  | some .left => checkLeftToRight 1 ds
  | _ => .error .direction
  if !mayEnd ds then .error .ending

def check (label : List Char) : Except LabelFault Unit := do
  if label = [] then .error .empty
  if !Text.isComposed label then .error .notComposed
  if (label.drop 2).take 2 = ['-', '-'] then .error .innerHyphens
  if label.head? = some '-' ∨ label.getLast? = some '-' then .error .outerHyphen
  if label.head?.any isMark then .error .initialMark
  checkFrom [] label
  checkDirections label

-- What stands in front of a label that is encoded.
def mark : List Char := ['x', 'n', '-', '-']

-- Checks code points. Those that are no characters count as the null, which no label holds.
def checkPoints (points : List Nat) : Except BadLabel Unit :=
  (check (points.map Char.ofNat)).mapError ({ points, fault := · })

-- Checks a label of ASCII: one that is encoded by what it encodes.
def checkPlain (label : List Char) : Except BadLabel Unit :=
  let points := label.map Char.toNat
  if mark.isPrefixOf label then
    let encoded := label.drop mark.length
    if encoded = [] then .error { points, fault := .nothingEncoded }
    else if encoded.getLast? = some '-' then .error { points, fault := .hyphenEncoded }
    else match Punycode.decode? encoded with
      | some decoded => checkPoints decoded
      | none => .error { points, fault := .unreadable }
  else checkPoints points

def maxLength : Nat := 63

def toAscii? (label : List Char) : Option (List Char) :=
  let (checked, ascii) :=
    if label.all (·.toNat < 128) then (checkPlain label, label)
    else (checkPoints (label.map Char.toNat), mark ++ Punycode.encode label)
  match checked with
  | .ok () => if ascii.length ≤ maxLength then some ascii else none
  | .error _ => none

end Label

-- The labels of a host name, between full stops of any script, and whether a full stop ends it.
def labelsOf (host : List Char) : List (List Char) × Bool :=
  let labels := host.splitOnP fun c =>
    c = '.' || c = Char.ofNat 0x3002 || c = Char.ofNat 0xFF0E || c = Char.ofNat 0xFF61
  if labels.getLast? = some [] then (labels.dropLast, true) else (labels, false)

def hostToAscii? (host : List Char) : Option (List Char) := do
  let (labels, stopped) := labelsOf host
  let labels ← labels.mapM Label.toAscii?
  let ascii := ['.'].intercalate (labels ++ if stopped then [[]] else [])
  if ascii.length ≤ (if stopped then 254 else 253) then some ascii else none

-- Checks a host name in ASCII whose first label is encoded.
def checkHost (host : List Char) : Except BadLabel Unit :=
  if Label.mark.isPrefixOf host then (labelsOf host).1.forM Label.checkPlain else .ok ()

end RelatedIssues.Url
