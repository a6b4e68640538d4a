import RelatedIssues.Search.Dialogue

namespace RelatedIssues

-- A list of replies for each kind of call, and empty last pages when a list has run out.
structure Script where
  enhanced : List Reply := []
  legacy   : List Reply := []

namespace Script

def lastPage : Json :=
  .obj [("issues", .arr []), ("isLast", .bool true)]

def emptyPage (size : Int) : Json :=
  .obj [("issues", .arr []), ("maxResults", .int size), ("total", .int 0)]

def answer (s : Script) : Call → Reply × Script
  | .enhanced .. =>
    match s.enhanced with
    | [] => (.ok lastPage, s)
    | reply :: rest => (reply, { s with enhanced := rest })
  | .legacy _ _ _ size =>
    match s.legacy with
    | [] => (.ok (emptyPage size), s)
    | reply :: rest => (reply, { s with legacy := rest })

def client : Client Script :=
  { answer }

end Script
end RelatedIssues
