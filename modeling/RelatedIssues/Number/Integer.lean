import RelatedIssues.Number.Reading
import RelatedIssues.Text.Digit

namespace RelatedIssues.Number

def digits? : List Char → Option (List Nat)
  | [] => none
  | [d] => (Text.digitValue? d).map ([·])
  | d :: '_' :: rest => do return (← Text.digitValue? d) :: (← digits? rest)
  | d :: rest => do return (← Text.digitValue? d) :: (← digits? rest)

def maxDigits : Nat := 4300

-- A whole number with a sign, blanks around it, and single underscores between its digits.
def integer? (text : List Char) : Option Int := do
  let (negative, body) := splitSign (Text.trim text)
  let ds ← digits? body
  if maxDigits < ds.length then none
  else
    let n : Nat := ds.foldl (fun n d => n * 10 + d) 0
    return if negative then -(n : Int) else n

end RelatedIssues.Number
