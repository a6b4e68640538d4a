import RelatedIssues.Resolution.Resolve
import RelatedIssues.Search.Gateway

namespace RelatedIssues.Resolution

-- Settings that cannot be loaded, or that no request can carry, give no service.
def connected (settings : Except Failure Settings) : Except Failure (Settings × Service) := do
  let settings ← settings
  let service ← Gateway.connect settings
  return (settings, service)

-- The clause for an invocation when the service gives the responses one after another.
def answerOverHttp (clock : Clock) (settings : Except Failure Settings) (responses : List HttpResponse)
    (i : Invocation) : Run Gateway.Channel String :=
  match connected settings with
  | .error f =>
    { calls := [], events := [.refused f], state := { pending := responses },
      value := Clause.matchNothing }
  | .ok (settings, service) =>
    (answer clock (.ok settings) i).run (Gateway.client service) { pending := responses }

-- The answer to a payload when the service gives the responses one after another.
def handleOverHttp (clock : Clock) (settings : Except Failure Settings) (responses : List HttpResponse)
    (payload : Json) : Run Gateway.Channel Json :=
  (answerOverHttp clock settings responses (.ofPayload payload)).map answerJson

end RelatedIssues.Resolution
