import RelatedIssues.Failure
import RelatedIssues.Settings.Assignment
import RelatedIssues.Settings.Basic
import RelatedIssues.Text.Lines
import RelatedIssues.Text.Lower
import RelatedIssues.Text.Utf8

namespace RelatedIssues

namespace Settings

-- Where settings may come from. A file that does not exist sets nothing.
structure Sources where
  given       : Table Json := []
  environment : Table String := []
  userFile    : Option String := none
  projectFile : Option String := none

def lowerName (name : String) : String :=
  .ofList (Text.lower name.toList)

-- The table with its names in lower case. Of names that become equal the last one counts.
def lowerNames (t : Table α) : Table α :=
  Table.override [] (t.map fun (name, value) => (lowerName name, value))

-- What stands in front of the name of a setting in the environment and in files.
def stem : String :=
  "jql_relations_"

namespace Sources

def fileVariables (environment : Table String) (text : Option String) : Table (Option String) :=
  match text with
  | none => []
  | some text =>
    lowerNames <| Assignment.evaluate environment <|
      Assignment.readAll (Text.unifyBreaks (Text.withoutMark text.toList))

-- The variables of both files. The user's file outranks the project's, also with a variable that has no
-- value there.
def written (s : Sources) : Table (Option String) :=
  (fileVariables s.environment s.projectFile).override (fileVariables s.environment s.userFile)

-- The value that the caller gives. The first name that is the same in lower case counts.
def given? (s : Sources) (name : String) : Option Json :=
  (s.given.find? fun (given, _) => lowerName given = name).map (·.2)

-- The value of a setting from the source of the highest rank that has one.
def get? (s : Sources) (name : String) : Option Json :=
  s.given? name <|>
    ((lowerNames s.environment).get? (stem ++ name)).map .str <|>
    (s.written.get? (stem ++ name)).join.map .str

def setting (s : Sources) (name : String) (default : α) (read : Json → Except Complaint α) : Checked α :=
  match s.get? name with
  | none => .ok default
  | some j => (Checked.ofExcept (read j)).under name

end Sources

def longText (least : Nat) (j : Json) : Except Complaint { s : String // least ≤ s.length } := do
  let s ← j.text
  if h : least ≤ s.length then .ok ⟨s, h⟩ else .error (.tooShort least)

def positive (j : Json) : Except Complaint { x : Double // x.isPositive } := do
  let x ← j.number
  if h : x.isPositive then .ok ⟨x, h⟩ else .error .notPositive

def count (j : Json) : Except Complaint { n : Nat // 1 ≤ n } := do
  let n ← j.integer
  if h : 1 ≤ n.toNat then .ok ⟨n.toNat, h⟩ else .error (.below 1)

def countUpTo (greatest : Nat) (j : Json) : Except Complaint { n : Nat // 1 ≤ n ∧ n ≤ greatest } := do
  let n ← count j
  if h : n.1 ≤ greatest then .ok ⟨n.1, n.2, h⟩ else .error (.above greatest)

-- Every setting is checked, and all problems are reported. What is set nowhere has its default.
def check (s : Sources) : Checked Settings :=
  let build (baseUrl : { s : String // 8 ≤ s.length }) (email apiToken bearerToken : Option String)
      (timeout : { x : Double // x.isPositive }) (userAgent : { s : String // 1 ≤ s.length })
      (pageCap : { n : Nat // 1 ≤ n ∧ n ≤ 50 }) (pageSize : { n : Nat // 1 ≤ n ∧ n ≤ 100 })
      (maxKeys : { n : Nat // 1 ≤ n }) (logLevel : String) : Settings := {
    baseUrl := baseUrl.1, email, apiToken, bearerToken, timeout := timeout.1, userAgent := userAgent.1,
    pageCap := pageCap.1, pageSize := pageSize.1, maxKeys := maxKeys.1, logLevel,
    baseUrl_long := baseUrl.2
    userAgent_ne := fun h => absurd userAgent.2 (by simp [h])
    pageCap_pos  := pageCap.2.1
    pageCap_le   := pageCap.2.2
    pageSize_pos := pageSize.2.1
    pageSize_le  := pageSize.2.2
    maxKeys_pos  := maxKeys.2
    timeout_pos  := timeout.2
  }
  let d : Settings := default
  let baseUrl := s.setting "jira_base_url" ⟨d.baseUrl, d.baseUrl_long⟩ (longText 8)
  let email := s.setting "jira_email" d.email (Json.optional Json.text)
  let apiToken := s.setting "jira_api_token" d.apiToken (Json.optional Json.text)
  let bearerToken := s.setting "jira_bearer_token" d.bearerToken (Json.optional Json.text)
  let timeout := s.setting "http_timeout_seconds" ⟨d.timeout, d.timeout_pos⟩ positive
  let userAgent := s.setting "user_agent" ⟨d.userAgent, by decide⟩ (longText 1)
  let pageCap := s.setting "page_cap" ⟨d.pageCap, d.pageCap_pos, d.pageCap_le⟩ (countUpTo 50)
  let pageSize := s.setting "page_size" ⟨d.pageSize, d.pageSize_pos, d.pageSize_le⟩ (countUpTo 100)
  let maxKeys := s.setting "max_result_keys" ⟨d.maxKeys, d.maxKeys_pos⟩ count
  let logLevel := s.setting "log_level" d.logLevel Json.text
  baseUrl.map build |> (Checked.ap · email) |> (Checked.ap · apiToken) |> (Checked.ap · bearerToken) |>
    (Checked.ap · timeout) |> (Checked.ap · userAgent) |> (Checked.ap · pageCap) |>
    (Checked.ap · pageSize) |> (Checked.ap · maxKeys) |> (Checked.ap · logLevel)

def load (s : Sources) : Except Failure Settings :=
  (check s).mapError (.invalid "AppSettings")

end Settings
end RelatedIssues
