import RelatedIssues.Proofs.Search.Gateway
import RelatedIssues.Search.Transport

namespace RelatedIssues

-- A response that is a failure: a refusal, unless it says that there is no search by cursor, or a body that cannot be
-- read.
inductive HttpResponse.Fails (method : HttpMethod) (response : HttpResponse) : Prop
  | refused (status : ¬(200 ≤ response.status ∧ response.status < 300))
      (other : ¬(response.status = 404 ∧ method = .post)) : Fails method response
  | unreadable (status : 200 ≤ response.status ∧ response.status < 300)
      (body : Json.readBody response.body = .error u) : Fails method response

-- A request that has come to a failure: there is no response, or one that is a failure.
inductive Arrival.Fails (method : HttpMethod) : Arrival → Prop
  | lost : Fails method (.lost kind message named)
  | response {r : HttpResponse} (fails : r.Fails method) : Fails method (.response r)

namespace Gateway

variable {α : Type} {s : Service} {call : Call} {r : HttpRequest} {response : HttpResponse} {arrival : Arrival}
  {arrivals : List Arrival} {sent : List HttpRequest} {f : Failure}

end Gateway
end RelatedIssues
