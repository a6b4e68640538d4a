import RelatedIssues.Json.Body
import RelatedIssues.Text.Blank
import RelatedIssues.Url.Basic
import RelatedIssues.Url.Label
import RelatedIssues.Validation

namespace RelatedIssues

-- An attempt to use a value as what it is not.
inductive Misuse where
  | notIterable (kind : String)
  | notLevel (shown : String)
  | noLength (kind : String)
  | noMember (kind member : String)
  deriving DecidableEq, Repr

inductive FileFault where
  | isDirectory
  | nameTooLong
  deriving DecidableEq, Repr

def FileFault.kind : FileFault → String
  | isDirectory => "IsADirectoryError"
  | nameTooLong => "OSError"

def FileFault.text : FileFault → String
  | isDirectory => "[Errno 21] Is a directory"
  | nameTooLong => "[Errno 36] File name too long"

inductive Failure where
  | component (name message : String)
  | search (protocol : String) (status : Int) (body : String)
  | unavailable (message : String)
  | runtime (message : String)
  | value (message : String)
  | misuse (m : Misuse)
  | overflow (message : String)
  | unencodable (message : String)
  | undecodable (fault : Json.Unreadable)
  | invalid (record : String) (problems : List Problem)
  | address (fault : Url.Fault)
  | untyped (url : String)
  | host (label : Url.BadLabel)
  | file (fault : FileFault) (place : String)
  -- A failure of a client's own, which the program knows by nothing but its kind and its message.
  | foreign (kind message : String) (named : kind ≠ "")
  deriving DecidableEq, Repr

def Json.Cause.kind : Json.Cause → String
  | .digits _ => "ValueError"
  | .depth _ => "RecursionError"
  | _ => "JSONDecodeError"

namespace Failure

def defaultUnavailable : String :=
  "enhanced JQL search not available"

def defaultComponent : String :=
  "unknown"

def kind : Failure → String
  | component .. => "ResolverError"
  | search .. => "SearchError"
  | unavailable _ => "SearchProtocolUnavailable"
  | runtime _ => "RuntimeError"
  | value _ => "ValueError"
  | misuse (.noMember ..) => "AttributeError"
  | misuse _ => "TypeError"
  | overflow _ => "OverflowError"
  | unencodable _ => "UnicodeEncodeError"
  | undecodable (.octets _) => "UnicodeDecodeError"
  | undecodable (.text fault) => fault.cause.kind
  | invalid .. => "ValidationError"
  | address _ => "InvalidURL"
  | untyped _ => "ValueError"
  | host label => label.kind
  | file fault _ => fault.kind
  | foreign kind _ _ => kind

def component? : Failure → Option String
  | component name _ => some name
  | search .. => some "search"
  | unavailable _ => some "search"
  | _ => none

def searchText (protocol : String) (status : Int) (body : String) : String :=
  .ofList (Text.trimEndBy Text.isBlank
    (protocol ++ " search failed: " ++ toString status ++ " " ++ body).toList)

def Misuse.message : Misuse → String
  | .notLevel shown => "Level not an integer or a valid string: " ++ shown
  | .notIterable kind => "'" ++ kind ++ "' object is not iterable"
  | .noLength kind => "object of type '" ++ kind ++ "' has no len()"
  | .noMember kind member => "'" ++ kind ++ "' object has no attribute '" ++ member ++ "'"

def invalidText (record : String) (problems : List Problem) : String :=
  toString problems.length ++
    (if problems.length = 1 then " validation error for " else " validation errors for ") ++ record

def quoted (s : String) : String :=
  .ofList (Text.quoted s.toList)

def message : Failure → String
  | component name message => "[" ++ name ++ "] " ++ message
  | search protocol status body => "[search] " ++ searchText protocol status body
  | unavailable message => "[search] " ++ message
  | runtime message => message
  | value message => message
  | misuse m => Misuse.message m
  | overflow message => message
  | unencodable message => message
  | undecodable fault => fault.message
  | invalid record problems => invalidText record problems
  | address fault => fault.message
  | untyped url => "unknown url type: " ++ quoted url
  | host label => label.message
  | file fault place => fault.text ++ ": " ++ quoted place
  | foreign _ message _ => message

-- The message, or the kind of a failure that has none.
def describe (f : Failure) : String :=
  if f.message = "" then f.kind else f.message

theorem kind_ne_empty (f : Failure) : f.kind ≠ "" := by
  cases f with
  | misuse m => cases m <;> simp [kind]
  | undecodable u =>
    cases u with
    | octets _ => simp [kind]
    | text fault => cases h : fault.cause <;> simp [kind, Json.Cause.kind, h]
  | host label =>
    cases h : label.fault <;> simp [kind, Url.BadLabel.kind, Url.LabelFault.kind, h]
  | file fault _ => cases fault <;> simp [kind, FileFault.kind]
  | foreign _ _ named => exact named
  | _ => simp [kind]

theorem describe_ne_empty (f : Failure) : f.describe ≠ "" := by
  unfold describe
  split
  · exact f.kind_ne_empty
  · assumption

end Failure

def Json.kind : Json → String
  | .null => "NoneType"
  | .bool _ => "bool"
  | .int _ => "int"
  | .real _ => "float"
  | .str _ => "str"
  | .arr _ => "list"
  | .obj _ => "dict"

end RelatedIssues
