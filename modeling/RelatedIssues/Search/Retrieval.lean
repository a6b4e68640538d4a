import RelatedIssues.Issue.OfJson
import RelatedIssues.Search.Dialogue

namespace RelatedIssues

structure Query where
  text   : String
  fields : List String
  size   : Int
  deriving DecidableEq, Repr

namespace Page

-- The entries of a page; what is not a list of issues has none.
def issues (page : Json) : List Json :=
  (page.getD "issues").itemsD

-- The token of the next page, unless there is none or the page says that it is the last.
def nextToken? (page : Json) : Option String :=
  match page.getD "isLast" with
  | .bool true => none
  | _ =>
    let token := page.getD "nextPageToken"
    if token.isTruthy then some token.display else none

-- A whole number; a truth value counts as one.
def count? : Json → Option Int
  | .int n => some n
  | .bool b => some (if b then 1 else 0)
  | _ => none

-- How far the next page is: what the service says it serves at most, if that is less than was asked
-- for.
def step (size : Int) (page : Json) : Int :=
  match count? (page.getD "maxResults") with
  | some n => if 0 < n ∧ n < size then n else size
  | none => size

def total (page : Json) : Int :=
  (count? (page.getD "total")).getD 0

end Page

-- How a search leads from page to page: the call for the page at a place, the place of the page after
-- it, if there is one, and what the log is told of it.
structure Paging (κ : Type) where
  call  : κ → Call
  next? : κ → Json → Option κ
  event : (page : Nat) → κ → (found : Nat) → Event

namespace Paging

-- At most `left` pages from a place on, after page `page` of which `found` are the entries so far.
def pages {κ : Type} (p : Paging κ) (page : Nat) (place : κ) (found : List Json) :
    (left : Nat) → Dialogue (Except Failure (List Json))
  | 0 => .done (.ok found)
  | left + 1 => .ask (p.call place) fun
    | .error f => .done (.error f)
    | .ok data =>
      let found := found ++ Page.issues data
      .tell (p.event page place found.length) <|
        match p.next? place data with
        | none => .done (.ok found)
        | some next => p.pages (page + 1) next found left

-- Page after page by cursor. The first page has no token.
def cursor (q : Query) : Paging (Option String) where
  call token         := .enhanced q.text q.fields q.size token
  next? _ data       := (Page.nextToken? data).map some
  event page _ found := .enhancedPage page found

def offset (q : Query) : Paging Int where
  call start       := .legacy q.text q.fields start q.size
  next? start data :=
    let next := start + Page.step q.size data
    if Page.total data ≤ next then none else some next
  event            := .legacyPage

end Paging

namespace Retrieval

-- The entries of at most `cap` pages: by cursor, or by offset if the service has no cursors.
def entries (q : Query) (cap : Nat) : Dialogue (Except Failure (List Json)) :=
  ((Paging.cursor q).pages 0 none [] cap).bind fun
    | .error (.unavailable _) => .tell .fellBack ((Paging.offset q).pages 0 0 [] cap)
    | r => .done r

def defaultFields : List String :=
  ["issuelinks", "parent", "issuetype", "subtasks"]

def defaultPageCap : Int := 4

def defaultPageSize : Int := 100

-- The issues of a query, each field asked for once. There is always at least one page of at least one
-- issue.
def issues (text : String) (fields : List String) (pageCap pageSize : Int) :
    Dialogue (Except Failure (List Issue)) :=
  (entries { text, fields := fields.eraseDups, size := max 1 pageSize } (max 1 pageCap).toNat).map
    fun r => r.bind fun found => found.mapM Issue.ofJson

end Retrieval
end RelatedIssues
