import RelatedIssues.Text.Hex
import RelatedIssues.Text.Printable

namespace RelatedIssues.Text

-- The quote that needs the fewest escapes; the single one where both do.
def quoteFor (s : List Char) : Char :=
  if s.contains '\'' && !s.contains '"' then '"' else '\''

def spellOut (c : Char) : List Char :=
  if c.toNat < 0x100 then '\\' :: 'x' :: hex 2 c.toNat
  else if c.toNat < 0x10000 then '\\' :: 'u' :: hex 4 c.toNat
  else '\\' :: 'U' :: hex 8 c.toNat

def showChar (quote c : Char) : List Char :=
  if c = quote ∨ c = '\\' then ['\\', c]
  else if c = '\n' then ['\\', 'n']
  else if c = '\r' then ['\\', 'r']
  else if c = '\t' then ['\\', 't']
  else if isPrintable c then [c]
  else spellOut c

def quoted (s : List Char) : List Char :=
  let quote := quoteFor s
  quote :: s.flatMap (showChar quote) ++ [quote]

end RelatedIssues.Text
