import RelatedIssues.Text.Spans

namespace RelatedIssues.Text

-- The breaks: line feeds and carriage returns, form and column feeds, the three outer information
-- separators, and the breaks for lines and paragraphs.
def lineBreaks : Spans := [(0x0A, 0x0D), (0x1C, 0x1E), (0x85, 0x85), (0x2028, 0x2029)]

def isLineBreak (c : Char) : Bool :=
  lineBreaks.contains c

def extendLine (c : Char) : List (List Char) → List (List Char)
  | [] => [[c]]
  | line :: rest => (c :: line) :: rest

-- The lines without their breaks. Nothing follows the last break.
def lines : List Char → List (List Char)
  | [] => []
  | '\r' :: '\n' :: rest => [] :: lines rest
  | c :: rest => if isLineBreak c then [] :: lines rest else extendLine c (lines rest)

-- The text with a line feed for every carriage return, alone or with a line feed after it.
def unifyBreaks : List Char → List Char
  | [] => []
  | '\r' :: '\n' :: rest => '\n' :: unifyBreaks rest
  | c :: rest => (if c = '\r' then '\n' else c) :: unifyBreaks rest

@[simp]
theorem lines_nil : lines [] = [] :=
  rfl

end RelatedIssues.Text
