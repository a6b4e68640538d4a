import RelatedIssues.Clause.Basic
import RelatedIssues.Clock
import RelatedIssues.Extraction
import RelatedIssues.Invocation
import RelatedIssues.Request.Parser
import RelatedIssues.Resolution.Basic
import RelatedIssues.Search.Retrieval
import RelatedIssues.Settings.Basic

namespace RelatedIssues.Resolution

-- What a failure comes to. The clock is read for the `i`-th time.
def giveUp (clock : Clock) (i : Nat) (f : Failure) : Dialogue (Except Failure Resolution) :=
  .tell (.failed f) <| .done <| (clock.elapsed i).map fun elapsed =>
    { clause := Clause.matchNothing, elapsed, error := some f.describe }

def blank (clock : Clock) (request : Request) : Dialogue (Except Failure Resolution) :=
  .tell .noQuery <|
    match clock.elapsed 1 with
    | .error f => giveUp clock 2 f
    | .ok elapsed =>
      .done (.ok { clause := Clause.matchNothing, relation := some request.relation, elapsed })

-- The resolution of a request whose issues have been retrieved.
def conclude (clock : Clock) (maxKeys : Nat) (negated : Bool) (request : Request)
    (issues : List Issue) : Dialogue (Except Failure Resolution) :=
  let found := extractKeys issues request.relation request.filter
  let kept := found.take maxKeys
  match clock.elapsed 1 with
  | .error f => giveUp clock 2 f
  | .ok elapsed =>
    let result : Dialogue (Except Failure Resolution) := .done <| .ok {
      clause   := Clause.build kept negated
      relation := some request.relation
      filter   := request.filter
      seeds    := issues.length
      keys     := kept.length
      elapsed
    }
    .tell (.resolved elapsed request.relation issues.length kept.length request.filter) <|
      if kept.length < found.length then .tell (.capped kept.length found.length) result else result

def retrieval (settings : Settings) (request : Request) : Dialogue (Except Failure (List Issue)) :=
  Retrieval.issues request.query Retrieval.defaultFields settings.pageCap settings.pageSize

def ofRequest (clock : Clock) (settings : Settings) (negated : Bool) (request : Request) :
    Dialogue (Except Failure Resolution) :=
  if request.query = "" then blank clock request
  else
    (retrieval settings request).bind fun
      | .error f => giveUp clock 1 f
      | .ok issues => conclude clock settings.maxKeys negated request issues

-- The resolution of an invocation. The settings may have failed to load. Only a clock that runs
-- backward leaves it without a result.
def resolve (clock : Clock) (settings : Except Failure Settings) (i : Invocation) :
    Dialogue (Except Failure Resolution) :=
  match settings with
  | .error f => giveUp clock 1 f
  | .ok settings => ofRequest clock settings i.negates (Request.parse i.argument)

-- The clause for an invocation, whatever happens.
def answer (clock : Clock) (settings : Except Failure Settings) (i : Invocation) : Dialogue String :=
  (resolve clock settings i).bind fun
    | .ok r => .done r.clause
    | .error f => .tell (.refused f) (.done Clause.matchNothing)

-- The object that a clause is handed over in.
def answerJson (clause : String) : Json :=
  .obj [("jql", .str clause)]

-- The answer to a payload. Nothing is too malformed to be answered.
def handle (clock : Clock) (settings : Except Failure Settings) (payload : Json) : Dialogue Json :=
  (answer clock settings (.ofPayload payload)).map answerJson

end RelatedIssues.Resolution
