namespace RelatedIssues

inductive ConsoleItem where
  | table (title : String) (columns : List String) (rows : List (List String))
  | panel (body : String) (title : Option String) (border : String)
  | line (colour lead rest : String)
  deriving DecidableEq, Repr

namespace ConsoleItem

-- Codes that would move the cursor or ring the bell.
def isCursorCode (c : Char) : Bool :=
  c = '\x07' || c = '\x08' || c = '\x0B' || c = '\x0C' || c = '\r'

def styled (s : String) : String :=
  .ofList (s.toList.filter (!isCursorCode ·))

def marked (colour lead rest : String) : String :=
  "[" ++ colour ++ "]" ++ lead ++ "[/" ++ colour ++ "]" ++ rest

def plain : ConsoleItem → List String
  | table title columns rows => title :: (columns :: rows).map " | ".intercalate
  | panel body title _ => (title.map (· ++ ":")).toList ++ [body]
  | line _ lead rest => [lead ++ rest]

end ConsoleItem
end RelatedIssues
