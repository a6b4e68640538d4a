import RelatedIssues.Proofs.Extraction.Entries

namespace RelatedIssues

-- What may stand at a side of a link: nothing, null, or an object whose key is a text, null or missing.
def Json.isSideIfAny : Option Json → Bool
  | none | some .null => true
  | some (.obj fields) => isTextIfAny (Table.get? fields "key")
  | some _ => false

-- The hint of a filter in the form in which labels are compared. One that is blank asks for nothing.
def LinkFilter.comparableHint (f : Option LinkFilter) : List Char :=
  (f.bind (·.hint)).elim [] fun hint => Text.lower (Text.trim hint.toList)

namespace Link

-- The labels of a link are those of its type. A type that is no object has none of them.
def comparableLabels (link : Json) : List (List Char) :=
  ["name", "inward", "outward"].map fun name => ((link.getD "type").getD name).comparable

-- The keys that a link leads to, the outward one first.
def keys (f : Option LinkFilter) (link : Json) : List String :=
  let outward := link.under? ["outwardIssue", "outward_issue"]
  let inward := link.under? ["inwardIssue", "inward_issue"]
  let hint := LinkFilter.comparableHint f
  let direction := f.bind (·.direction)
  if Json.isSideIfAny outward ∧ Json.isSideIfAny inward ∧
      (hint = [] ∨ hint ∈ comparableLabels link) then
    (if direction = some .inward then [] else (outward.bind (·.key?)).toList) ++
      (if direction = some .outward then [] else (inward.bind (·.key?)).toList)
  else []

end Link

-- The keys that an entry tells in its links. What is no list has no links, and what is no object is none.
def Issue.linkedKeys (f : Option LinkFilter) (entry : Json) : List String :=
  ((piece entry "issuelinks").itemsD.filter (·.isObject)).flatMap (Link.keys f)

variable {j : Json} {side : Option Json} {fields : Table Json} {f : Option LinkFilter}

theorem namedKeys_reference (j : Json) :
    namedKeys ((IssueRef.ofJson? j).toList.map (·.key)) = j.key?.toList := by
  cases j with
  | obj fields =>
    rw [Json.key?, Json.get?, IssueRef.ofJson?]
    cases Table.get? fields "key" with
    | none => rfl
    | some key =>
      cases key with
      | str key => by_cases hk : key = "" <;> simp [Json.textOrNull?, namedKeys, hk]
      | null | bool | int | real | arr | obj => rfl
  | null | bool | int | real | str | arr => rfl

theorem isSome_side (side : Option Json) :
    (IssueRef.ofJsonOrNull? (side.getD .null)).isSome = Json.isSideIfAny side := by
  cases side with
  | none => rfl
  | some j =>
    cases j with
    | obj fields =>
      rw [Json.isSideIfAny, ← Json.isSome_textOrNull?]
      simp [IssueRef.ofJsonOrNull?, IssueRef.ofJson?]
    | null | bool | int | real | str | arr => rfl

theorem namedKeys_side {reference : Option IssueRef}
    (h : IssueRef.ofJsonOrNull? (side.getD .null) = some reference) :
    namedKeys (reference.toList.map (·.key)) = (side.bind (·.key?)).toList := by
  cases side with
  | none => cases h; rfl
  | some j =>
    rw [Option.bind_some, ← namedKeys_reference]
    cases j with
    | null => cases h; rfl
    | obj fields =>
      have ⟨r, hr, he⟩ := Option.map_eq_some_iff.mp h
      rw [← he, Option.getD_some] at *
      rw [hr]
    | bool | int | real | str | arr => cases h

theorem admits_iff {type : Json} {outward inward : Option IssueRef} {link : Json}
    (h : link.getD "type" = type) :
    LinkFilter.admits f { type := .ofJson type, outward, inward } ↔
      LinkFilter.comparableHint f = [] ∨ LinkFilter.comparableHint f ∈ Link.comparableLabels link := by
  have hh : LinkFilter.normalizedHint f = LinkFilter.comparableHint f := by
    rw [LinkFilter.normalizedHint, normalizeLabel, LinkFilter.comparableHint]
    cases f.bind (·.hint) <;> rfl
  have hl : (LinkType.ofJson type).labels = Link.comparableLabels link := by
    rw [LinkType.labels, LinkType.ofJson, normalizeLabel_labelOfJson, normalizeLabel_labelOfJson,
      normalizeLabel_labelOfJson, ← h]
    rfl
  rw [LinkFilter.admits, hh, hl, Bool.or_eq_true, decide_eq_true_iff, List.contains_iff_mem]

theorem wants_outward_iff : LinkFilter.wants f .outward ↔ f.bind (·.direction) ≠ some .inward := by
  rw [LinkFilter.wants]
  cases f.bind (·.direction) with
  | none => decide
  | some d => cases d <;> decide

theorem wants_inward_iff : LinkFilter.wants f .inward ↔ f.bind (·.direction) ≠ some .outward := by
  rw [LinkFilter.wants]
  cases f.bind (·.direction) with
  | none => decide
  | some d => cases d <;> decide

theorem ofJson?_obj : Link.ofJson? (.obj fields) =
    (IssueRef.ofJsonOrNull? (((Json.obj fields).under? ["outwardIssue", "outward_issue"]).getD .null)).bind
      fun outward =>
    (IssueRef.ofJsonOrNull? (((Json.obj fields).under? ["inwardIssue", "inward_issue"]).getD .null)).map
      fun inward => { type := .ofJson ((Json.obj fields).getD "type"), outward, inward } := by
  rw [← Json.either_eq, ← Json.either_eq, Link.ofJson?, Link.ofFields?]
  cases IssueRef.ofJsonOrNull? (Json.either fields "outwardIssue" "outward_issue") <;>
    cases IssueRef.ofJsonOrNull? (Json.either fields "inwardIssue" "inward_issue") <;> rfl

-- The keys at the ends of a link that has been read are those at its sides.
theorem namedKeys_ends {link : Json} {side side' : Option Json} {outward inward : Option IssueRef}
    (ho : IssueRef.ofJsonOrNull? (side.getD .null) = some outward)
    (hi : IssueRef.ofJsonOrNull? (side'.getD .null) = some inward) :
    namedKeys (Link.ends f { type := .ofJson (link.getD "type"), outward, inward }) =
      if LinkFilter.comparableHint f = [] ∨ LinkFilter.comparableHint f ∈ Link.comparableLabels link then
        (if f.bind (·.direction) = some .inward then [] else (side.bind (·.key?)).toList) ++
          (if f.bind (·.direction) = some .outward then [] else (side'.bind (·.key?)).toList)
      else [] := by
  simp only [Link.ends, admits_iff rfl, wants_outward_iff, wants_inward_iff, ne_eq, ite_not]
  rw [apply_ite namedKeys, namedKeys_append, apply_ite namedKeys, apply_ite namedKeys,
    namedKeys_side ho, namedKeys_side hi]
  rfl

-- A link that is read leads where the entry says, and one that is not read leads nowhere.
theorem namedKeys_link : namedKeys ((Link.ofJson? (.obj fields)).toList.flatMap (·.ends f)) =
    Link.keys f (.obj fields) := by
  have hs := isSome_side ((Json.obj fields).under? ["outwardIssue", "outward_issue"])
  have hs' := isSome_side ((Json.obj fields).under? ["inwardIssue", "inward_issue"])
  rw [ofJson?_obj, Link.keys, ← hs, ← hs']
  cases ho : IssueRef.ofJsonOrNull?
      (((Json.obj fields).under? ["outwardIssue", "outward_issue"]).getD .null) with
  | none => simp [namedKeys]
  | some outward =>
    cases hi : IssueRef.ofJsonOrNull?
        (((Json.obj fields).under? ["inwardIssue", "inward_issue"]).getD .null) with
    | none => simp [namedKeys]
    | some inward =>
      rw [Option.bind_some, Option.map_some, Option.toList_some, List.flatMap_singleton,
        namedKeys_ends ho hi]
      simp

theorem namedKeys_links (items : List Json) :
    namedKeys ((items.filterMap Link.ofJson?).flatMap (·.ends f)) =
      (items.filter (·.isObject)).flatMap (Link.keys f) := by
  rw [namedKeys_filterMap]
  induction items with
  | nil => rfl
  | cons j items ih =>
    rw [List.flatMap_cons, ih]
    cases j with
    | obj fields => rw [namedKeys_link, ← List.flatMap_cons, ← List.filter_cons_of_pos rfl]
    | null | bool | int | real | str | arr => rfl

theorem namedKeys_linked {entry : Json} {issue : Issue} (h : Issue.ofJson entry = .ok issue) :
    namedKeys (issue.related .linked f) = Issue.linkedKeys f entry := by
  rw [Issue.eq_ofPieces_of_ofJson h]
  exact namedKeys_links _

-- Linked issues are the ones that the links of the entries lead to, in the order of the entries and of their
-- links, each once.
theorem linked_keys_of_entries (entries : List Json) (issues : List Issue) (f : Option LinkFilter)
    (h : entries.mapM Issue.ofJson = .ok issues) :
    extractKeys issues .linked f = (entries.flatMap (Issue.linkedKeys f)).eraseDups ∧
    (extractKeys issues .linked f).Nodup ∧ ∀ key ∈ extractKeys issues .linked f, key ≠ "" :=
  ⟨extractKeys_of_entries (fun _ _ => namedKeys_linked) h, nodup_extractKeys, fun _ => key_ne_empty_of_mem⟩

-- Of the links of the first entry one has a number for a key, one has another label and one leads to an issue that
-- has been met. The links of the second one are read under the other names; the third entry has a text for links.
theorem linked_keys_of_entries_labelled :
    let reference (key : Json) : Json := .obj [("key", key)]
    let blocks : Json := .obj [("name", .str "Blocks"), ("inward", .null), ("outward", .int 7)]
    let f : LinkFilter := { hint := some "  bLOCKs " }
    let first : Json := .obj [("fields", .obj [("issuelinks", .arr [
      .obj [("type", blocks), ("outwardIssue", reference (.int 1)), ("inwardIssue", reference (.str "A-1"))],
      .obj [("type", .arr [blocks]), ("outwardIssue", reference (.str "A-2"))],
      .obj [("type", blocks), ("outwardIssue", reference (.str "A-3")), ("inwardIssue", .null)],
      .str "A-4", .obj [("type", blocks), ("inwardIssue", reference (.str "A-3"))]])])]
    let second : Json := .obj [("fields", .obj [("issuelinks", .arr [
      .obj [("type", blocks), ("inward_issue", reference (.str "A-6")), ("outward_issue", reference (.str "A-5")),
        ("outwardIssue", reference .null)]])])]
    let third : Json := .obj [("fields", .obj [("issuelinks", .str "A-7")])]
    ∃ issues, [first, second, third].mapM Issue.ofJson = .ok issues ∧
      extractKeys issues .linked (some f) = ["A-3", "A-6"] ∧
      extractKeys issues .linked (some { hint := some "7", direction := some .outward }) = ["A-3"] ∧
      extractKeys issues .linked none = ["A-2", "A-3", "A-6"] := by
  intro reference blocks f first second third
  have h : [first, second, third].mapM Issue.ofJson = .ok _ := rfl
  refine ⟨_, h, ?_, ?_, ?_⟩
  case refine_1 => exact (linked_keys_of_entries _ _ (some f) h).1.trans (by decide +kernel)
  case refine_2 => exact (linked_keys_of_entries _ _ _ h).1.trans (by decide +kernel)
  case refine_3 => exact (linked_keys_of_entries _ _ none h).1.trans (by decide +kernel)

end RelatedIssues
