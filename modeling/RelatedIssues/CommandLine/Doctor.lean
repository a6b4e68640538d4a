import RelatedIssues.CommandLine.Outcome
import RelatedIssues.Search.Dialogue
import RelatedIssues.Settings.EnvFile

namespace RelatedIssues

def Json.size : Json → Except Failure Nat
  | .null => .ok 0
  | .arr items => .ok items.length
  | .obj fields => .ok fields.length
  | .str s => .ok s.length
  | j => if j.isTruthy then .error (.misuse (.noLength j.kind)) else .ok 0

namespace Doctor

-- How many issues a page has. Only an object can be asked for them.
def issueCount : Json → Except Failure Nat
  | .obj fields => ((Table.get? fields "issues").getD .null).size
  | j => .error (.misuse (.noMember j.kind "get"))

def complaint : Failure → String
  | .unavailable _ => "Endpoint not found (legacy fallback will be used)"
  | .search _ status _ => "HTTP " ++ toString status
  | f => f.message

def verdict (reply : Reply) : Bool × String :=
  match reply.bind issueCount with
  | .ok n => (true, toString n ++ " issue(s) returned")
  | .error f => (false, complaint f)

def checkRow (name : String) (reply : Reply) : List String :=
  let (fine, detail) := verdict reply
  ["Search (" ++ name ++ ")", if fine then "OK" else "FAIL", detail]

-- The newest issue of all, searched for by cursor and by offset.
def probeQuery : String :=
  "order by created DESC"

def enhancedProbe : Call :=
  .enhanced probeQuery ["parent"] 1 none

def legacyProbe : Call :=
  .legacy probeQuery ["parent"] 0 1

def credentialsRow (s : Settings) : List String :=
  if s.bearerToken.any (· ≠ "") then ["Credentials", "OK", "Bearer token"]
  else match s.email.filter (· ≠ ""), s.apiToken.filter (· ≠ "") with
    | some email, some _ => ["Credentials", "OK", "Basic auth as " ++ email]
    | _, _ => ["Credentials", "MISSING", "Run \x60doctor setup-jira\x60 -> anonymous requests"]

def settingsRows (s : Settings) : List (List String) :=
  [["Jira base_url", "OK", s.baseUrl], credentialsRow s,
    ["Caps", "OK",
      toString s.pageCap ++ " pages x " ++ toString s.pageSize ++ " issues, " ++ toString s.maxKeys ++
        " keys"]]

-- Checks the settings and both search protocols.
def checkUp (around : Surroundings) : Dialogue Outcome :=
  match Settings.load around.sources with
  | .error f => .done (.failed f around.log)
  | .ok settings =>
    .ask enhancedProbe fun enhanced =>
    .ask legacyProbe fun legacy =>
    .done {
      console := [.table "jql-relations Doctor" ["Check", "Status", "Details"]
        (settingsRows settings ++ [checkRow "enhanced" enhanced, checkRow "legacy" legacy])]
      log := around.log
    }

def typedLines (input : String) : List (List Char) :=
  ((Text.unifyBreaks input.toList).splitOnP (· = '\n')).filter (· ≠ [])

def accountWrites (baseUrl email token : List Char) : EnvFile.Writes :=
  [("JQL_RELATIONS_JIRA_BASE_URL", some (.ofList baseUrl)),
    ("JQL_RELATIONS_JIRA_EMAIL", some (.ofList email)),
    ("JQL_RELATIONS_JIRA_API_TOKEN", some (.ofList token))]

-- The set-up of an account from three lines. An answer that is missing ends the command, and a blank
-- one is refused.
def setUp (around : Surroundings) : Outcome :=
  match (typedLines around.input).map Text.trim with
  | baseUrl :: email :: token :: _ =>
    if baseUrl = [] ∨ email = [] ∨ token = [] then { exitCode := 2, log := around.log }
    else
      let text := EnvFile.update around.sources.userFile (accountWrites baseUrl email token)
      match around.disk.refusal? (.ofText around.userPlace) text with
      | some f => .failed f around.log
      | none => {
        console  := [.line "green" "Saved Jira config to:" (" " ++ around.userPlace)]
        userFile := some text
        log      := around.log
      }
  | _ => { exitCode := 1, log := around.log }

end Doctor
end RelatedIssues
