import RelatedIssues.Json.Writer
import RelatedIssues.Search.Dialogue
import RelatedIssues.Settings.Basic
import RelatedIssues.Text.Base64
import RelatedIssues.Text.Quoted
import RelatedIssues.Url.Parser

namespace RelatedIssues

inductive HttpMethod where
  | get
  | post
  deriving DecidableEq, Repr

def HttpMethod.text : HttpMethod → String
  | get => "GET"
  | post => "POST"

structure HttpRequest where
  method        : HttpMethod
  url           : Url
  body          : Option Json := none
  authorization : Option String := none
  userAgent     : String
  timeout       : String

namespace HttpRequest

def mediaType : String :=
  "application/json"

-- Only a request with a body says of which type it is.
def contentType (r : HttpRequest) : Option String :=
  r.body.map fun _ => mediaType

end HttpRequest

-- The response that a request ends in, when all redirects have been followed.
structure HttpResponse where
  status : Int
  body   : String
  deriving DecidableEq, Repr

namespace HttpResponse

def ofJson (status : Int) (j : Json) : HttpResponse where
  status := status
  body   := j.write .compact

def isSuccess (r : HttpResponse) : Bool :=
  200 ≤ r.status && r.status < 300

end HttpResponse

namespace Settings

-- Who asks: the holder of a bearer token, or else an account with its token.
def authorization (s : Settings) : Option String :=
  match s.bearerToken.filter (· ≠ "") with
  | some token => some ("Bearer " ++ token)
  | none =>
    match s.email.filter (· ≠ ""), s.apiToken.filter (· ≠ "") with
    | some email, some token => some ("Basic " ++ Text.Base64.ofText (email ++ ":" ++ token))
    | _, _ => none

-- The address of the service, without slashes at its end.
def address (s : Settings) : String :=
  .ofList (Text.trimEndBy (· = '/') s.baseUrl.toList)

end Settings

namespace Call

def path : Call → List Char
  | enhanced .. => "rest/api/3/search/jql".toList
  | legacy .. => "rest/api/3/search".toList

def method : Call → HttpMethod
  | enhanced .. => .post
  | legacy .. => .get

def protocol : Call → String
  | enhanced .. => "enhanced"
  | legacy .. => "legacy"

-- The body of a call by cursor. An empty token is not sent.
def body : Call → Option Json
  | enhanced query fields size token =>
    some <| .obj <|
      [("jql", .str query), ("maxResults", .int size), ("fields", .arr (fields.map .str))] ++
        (token.filter (· ≠ "")).toList.map fun token => ("nextPageToken", .str token)
  | legacy .. => none

def params? : Call → Option (List (String × String))
  | enhanced .. => none
  | legacy query fields start size =>
    some [("jql", query), ("startAt", toString start), ("maxResults", toString size),
      ("fields", ",".intercalate fields)]

end Call

-- The service as the settings describe it: its address, which ends in a slash, and who asks how.
structure Service where
  base          : Url
  authorization : Option String
  userAgent     : String
  timeout       : String

namespace Gateway

-- The characters of a text that no header can hold: the first one beyond ASCII and those beyond ASCII
-- right after it, with how many stand before them.
def foreignRun (text : List Char) : Nat × List Char :=
  let plain := text.takeWhile (·.toNat < 128)
  (plain.length, (text.drop plain.length).takeWhile (128 ≤ ·.toNat))

def foreignText (place : Nat) (run : List Char) : String :=
  "'ascii' codec can't encode " ++
    (match run with
      | [c] => "character '" ++ .ofList (Text.spellOut c) ++ "' in position " ++ toString place
      | _ =>
        "characters in position " ++ toString place ++ "-" ++ toString (place + run.length - 1)) ++
    ": ordinal not in range(128)"

def checkHeader (text : List Char) : Except Failure Unit :=
  match foreignRun text with
  | (_, []) => .ok ()
  | (place, run) => .error (.unencodable (foreignText place run))

def connect (s : Settings) : Except Failure Service := do
  let base ← ((Url.parse s.address.toList).bind Url.asDirectory).mapError .address
  checkHeader s.userAgent.toList
  return { base, authorization := s.authorization, userAgent := s.userAgent, timeout := s.timeoutText }

def url (base : Url) (call : Call) : Except Url.Fault Url := do
  let url ← base.extend call.path
  match call.params? with
  | some params => url.withParams params
  | none => .ok url

-- Who asks, as far as the address says.
def accountOf (u : Url) : Option String :=
  u.account?.map fun (name, password) =>
    "Basic " ++ Text.Base64.ofText (.ofList (name ++ ':' :: password))

-- The request for a call. The name of its host must be one that can be read, and be in ASCII.
def request (s : Service) (call : Call) : Except Failure HttpRequest := do
  let url ← (url s.base call).mapError .address
  (Url.checkHost url.host).mapError .host
  checkHeader url.place
  return {
    method := call.method, url, body := call.body, userAgent := s.userAgent, timeout := s.timeout
    authorization := s.authorization <|> accountOf url
  }

-- The page in a body. JSON that is no object is an empty page.
def page (body : String) : Reply :=
  match Json.readBody body with
  | .ok (.obj fields) => .ok (.obj fields)
  | .ok _ => .ok (.obj [])
  | .error u => .error (.undecodable u)

-- Only a missing address for searches by cursor means that there are none. Every other refusal is a failed search.
def reply (call : Call) (response : HttpResponse) : Reply :=
  if response.status = 404 ∧ !call.isLegacy then .error (.unavailable Failure.defaultUnavailable)
  else if response.isSuccess then page response.body
  else .error (.search call.protocol response.status response.body)

-- The responses that are still to come, and the requests that have been sent.
structure Channel where
  pending : List HttpResponse := []
  sent    : List HttpRequest := []

def lastResponse : HttpResponse where
  status := 200
  body   := "\x7b\x7d"

-- Sends a request. An address that says of no type what it is has its response taken, but not read.
def exchange (ch : Channel) (call : Call) (r : HttpRequest) : Reply × Channel :=
  (if r.url.isTyped then reply call (ch.pending.headD lastResponse)
    else .error (.untyped r.url.plainText),
    { pending := ch.pending.tail, sent := ch.sent ++ [r] })

def answer (s : Service) (ch : Channel) (call : Call) : Reply × Channel :=
  match request s call with
  | .ok r => exchange ch call r
  | .error f => (.error f, ch)

def client (s : Service) : Client Channel where
  answer := answer s

end Gateway
end RelatedIssues
