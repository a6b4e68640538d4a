import RelatedIssues.Json.Basic
import RelatedIssues.Number.Shortest

namespace RelatedIssues

-- The settings: where the service is, who asks, and the bounds of one invocation.
structure Settings where
  baseUrl       : String := "https://your-domain.atlassian.net"
  email         : Option String := none
  apiToken      : Option String := none
  bearerToken   : Option String := none
  timeout       : Double := .ofInt 20
  userAgent     : String := "jql-relations/0.1"
  pageCap       : Nat := 4
  pageSize      : Nat := 100
  maxKeys       : Nat := 1000
  logLevel      : String := "INFO"
  baseUrl_long  : 8 ≤ baseUrl.length := by decide
  userAgent_ne  : userAgent ≠ "" := by decide
  pageCap_pos   : 1 ≤ pageCap := by decide
  pageCap_le    : pageCap ≤ 50 := by decide
  pageSize_pos  : 1 ≤ pageSize := by decide
  pageSize_le   : pageSize ≤ 100 := by decide
  maxKeys_pos   : 1 ≤ maxKeys := by decide
  timeout_pos   : timeout.isPositive := by decide

instance : Inhabited Settings := ⟨{}⟩

namespace Settings

def timeoutText (s : Settings) : String :=
  s.timeout.text "inf" "nan"

def toJson (s : Settings) : Json :=
  .obj [
    ("jira_base_url", .str s.baseUrl),
    ("jira_email", .ofOption .str s.email),
    ("jira_api_token", .ofOption .str s.apiToken),
    ("jira_bearer_token", .ofOption .str s.bearerToken),
    ("http_timeout_seconds", .str s.timeoutText),
    ("user_agent", .str s.userAgent),
    ("page_cap", .int s.pageCap),
    ("page_size", .int s.pageSize),
    ("max_result_keys", .int s.maxKeys),
    ("log_level", .str s.logLevel)]

end Settings

end RelatedIssues
