import RelatedIssues.Text.Spans

namespace RelatedIssues.Text

-- Blanks: the white space of every script and the four information separators.
def blanks : Spans := [
  (0x09, 0x0D), (0x1C, 0x20), (0x85, 0x85), (0xA0, 0xA0), (0x1680, 0x1680), (0x2000, 0x200A),
  (0x2028, 0x2029), (0x202F, 0x202F), (0x205F, 0x205F), (0x3000, 0x3000)]

def isBlank (c : Char) : Bool :=
  blanks.contains c

def trimEndBy (p : Char → Bool) (s : List Char) : List Char :=
  (s.reverse.dropWhile p).reverse

def trimBy (p : Char → Bool) (s : List Char) : List Char :=
  trimEndBy p (s.dropWhile p)

abbrev trim (s : List Char) : List Char :=
  trimBy isBlank s

@[simp]
theorem trimBy_nil {p : Char → Bool} : trimBy p [] = [] :=
  rfl

end RelatedIssues.Text
