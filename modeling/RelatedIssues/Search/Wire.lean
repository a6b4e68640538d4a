import RelatedIssues.Search.Transport

namespace RelatedIssues

namespace HttpRequest

def params (r : HttpRequest) : List (String × String) :=
  r.url.query.elim [] Url.Query.decode

def headers (r : HttpRequest) : Json :=
  .obj [
    ("accept", .str mediaType),
    ("authorization", .ofOption .str r.authorization),
    ("content-type", .ofOption .str r.contentType),
    ("user-agent", .str r.userAgent)]

def toJson (r : HttpRequest) : Json :=
  .obj [
    ("method", .str r.method.text),
    ("url", .str r.url.withoutQuery.text),
    ("params", .arr (r.params.map fun (name, value) => .arr [.str name, .str value])),
    ("body", .ofOption id r.body),
    ("headers", r.headers),
    ("timeout", .str r.timeout)]

end HttpRequest

namespace HttpResponse

-- A status; what is no whole number is none.
def statusOf : Json → Int
  | .int n => n
  | _ => 0

-- The response that an object describes: its status, and a body as a JSON value or as text.
def describedBy (j : Json) : HttpResponse :=
  let status := statusOf (j.getD "status")
  match j.get? "json" with
  | some v => ofJson status v
  | none => { status, body := ((j.getD "text").str?).getD "" }

end HttpResponse

-- What a request has come to: an object that names an error says that there is no response.
def Arrival.describedBy (j : Json) : Arrival :=
  let kind := ((j.getD "error").str?).getD ""
  if named : kind ≠ "" then .lost kind (((j.getD "message").str?).getD "") named
  else .response (.describedBy j)
end RelatedIssues
