import RelatedIssues.Resolution.Basic

namespace RelatedIssues

-- The value of a field; a field that is missing has its default.
def Json.field (fields : Table Json) (name : String) (default : α) (read : Json → Except Complaint α) :
    Checked α :=
  match Table.get? fields name with
  | none => .ok default
  | some j => (Checked.ofExcept (read j)).under name

def Json.someText (j : Json) : Except Complaint String := do
  let s ← j.text
  if s = "" then .error (.tooShort 1) else .ok s

def Json.natural (j : Json) : Except Complaint Nat := do
  let n ← j.integer
  if n < 0 then .error (.below 0) else .ok n.toNat

def Relation.ofJson : Json → Except Complaint Relation :=
  Json.oneOf (all.map word) ofWord?

def Direction.ofJson : Json → Except Complaint Direction :=
  Json.oneOf (all.map word) ofWord?

namespace LinkFilter

def ofFields (fields : Table Json) : Checked LinkFilter :=
  Checked.ap
    (Except.map mk (Json.field fields "type_hint" none (Json.optional Json.text)))
    (Json.field fields "direction" none (Json.optional Direction.ofJson))

def ofJson : Json → Checked LinkFilter
  | .obj fields => ofFields fields
  | _ => Checked.ofExcept (.error (.notRecord "LinkFilter"))

def ofJsonOrNull : Json → Checked (Option LinkFilter)
  | .null => .ok none
  | j => (ofJson j).map some

end LinkFilter

namespace Resolution

-- All problems are reported in the order of the fields. Fields that are not known do not count.
def ofFields (fields : Table Json) : Checked Resolution :=
  let clause : Checked String := match Table.get? fields "jql" with
    | none => (Checked.ofExcept (.error .missing)).under "jql"
    | some j => (Checked.ofExcept j.someText).under "jql"
  let relation := Json.field fields "mode" none (Json.optional Relation.ofJson)
  let filter := match Table.get? fields "link_filter" with
    | none => .ok none
    | some j => (LinkFilter.ofJsonOrNull j).under "link_filter"
  let seeds := Json.field fields "seed_count" 0 Json.natural
  let keys := Json.field fields "key_count" 0 Json.natural
  let elapsed := Json.field fields "elapsed_ms" 0 Json.natural
  let error := Json.field fields "error" none (Json.optional Json.text)
  clause.map Resolution.mk |> (Checked.ap · relation) |> (Checked.ap · filter) |>
    (Checked.ap · seeds) |> (Checked.ap · keys) |> (Checked.ap · elapsed) |> (Checked.ap · error)

end Resolution
end RelatedIssues
