import RelatedIssues.Search.Gateway

namespace RelatedIssues

-- What a request comes to. All redirects are followed, and the response at their end is handed back; or there is none,
-- for a reason that the transport tells.
inductive Arrival where
  | response (r : HttpResponse)
  | lost (kind message : String) (named : kind ≠ "")

namespace Gateway

-- The reply to a call, from what its request has come to.
def receive (call : Call) (r : HttpRequest) : Arrival → Reply
  | .response response => (exchange { pending := [response] } call r).1
  | .lost kind message named => .error (.foreign kind message named)

end Gateway
end RelatedIssues
