import RelatedIssues.Failure
import RelatedIssues.Json.Display
import RelatedIssues.Relation

namespace RelatedIssues

def LinkFilter.toJson (f : LinkFilter) : Json :=
  .obj [
    ("type_hint", .ofOption .str f.hint),
    ("direction", .ofOption (fun d => .str d.word) f.direction)]

inductive Severity where
  | debug
  | info
  | warning
  | error
  deriving DecidableEq, Repr

def Severity.word : Severity → String
  | debug => "DEBUG"
  | info => "INFO"
  | warning => "WARNING"
  | error => "ERROR"

-- The level of a line; a log takes the lines from its own level up.
def Severity.level : Severity → Nat
  | debug => 10
  | info => 20
  | warning => 30
  | error => 40

inductive Event where
  | enhancedPage (page issues : Nat)
  | legacyPage (page : Nat) (start : Int) (issues : Nat)
  | fellBack
  | noQuery
  | resolved (elapsed : Nat) (relation : Relation) (seeds keys : Nat) (filter : Option LinkFilter)
  | capped (kept found : Nat)
  | failed (f : Failure)
  | refused (f : Failure)
  deriving DecidableEq, Repr

namespace Event

def severity : Event → Severity
  | enhancedPage .. => .debug
  | legacyPage .. => .debug
  | fellBack => .info
  | noQuery => .warning
  | resolved .. => .info
  | capped .. => .warning
  | failed _ => .error
  | refused _ => .error

-- Lines of one invocation are tagged, so that they can be told from those of another.
def isTagged : Event → Bool
  | noQuery => true
  | resolved .. => true
  | capped .. => true
  | failed _ => true
  | _ => false

def text : Event → String
  | enhancedPage page issues =>
    "enhanced page=" ++ toString page ++ " issues=" ++ toString issues
  | legacyPage page start issues =>
    "legacy page=" ++ toString page ++ " startAt=" ++ toString start ++ " issues=" ++ toString issues
  | fellBack => "Enhanced JQL search not available, falling back to legacy pagination"
  | noQuery => "No inner JQL provided."
  | resolved elapsed relation seeds keys filter =>
    "Done in " ++ toString elapsed ++ "ms; mode=" ++ relation.word ++ "; seeds=" ++ toString seeds ++
      "; resultKeys=" ++ toString keys ++
      "; filter=" ++ (Json.ofOption LinkFilter.toJson filter).display
  | capped kept found =>
    "Result capped at " ++ toString kept ++ " of " ++ toString found ++ " keys"
  | failed f => "Resolver error: " ++ f.message
  | refused f => "Invocation error: " ++ f.message

def line (tag : String) (e : Event) : String :=
  if e.isTagged then "[" ++ tag ++ "] " ++ e.text else e.text

end Event
end RelatedIssues
