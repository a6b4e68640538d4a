import RelatedIssues.Proofs.Extraction.Links

namespace RelatedIssues

-- Nothing, null or what spells a whole number.
def Json.isIntegerIfAny : Option Json → Bool
  | none | some .null => true
  | some j => (Json.integer j).toOption.isSome

namespace IssueType

-- The names of the level.
def levelNames : List String :=
  ["hierarchyLevel", "hierarchy_level"]

-- A type that can be read is an object with a text for a name and a whole number for a level, as far as they are
-- there. The level may have several names, and the first that is there counts.
def IsReadable (levelNames : List String) (type : Json) : Prop :=
  type.isObject ∧ Json.isIntegerIfAny (type.under? levelNames) ∧ Json.isTextIfAny (type.get? "name")

-- Epics are on the first level or have the name.
def TellsEpic (levelNames : List String) (type : Json) : Prop :=
  (type.under? levelNames).bind (fun level => (Json.integer level).toOption) = some 1 ∨
    (type.getD "name").comparable = "epic".toList

instance {levelNames : List String} {type : Json} : Decidable (IsReadable levelNames type) :=
  inferInstanceAs (Decidable (_ ∧ _))

instance {levelNames : List String} {type : Json} : Decidable (TellsEpic levelNames type) :=
  inferInstanceAs (Decidable (_ ∨ _))

end IssueType

namespace Parent

def typeOf (parent : Json) : Json :=
  (parent.getD "fields").getD "issuetype"

-- The key of a parent that is an epic, as far as can be told.
def epicKey? (levelNames : List String) (parent : Json) : Option String :=
  if IssueType.IsReadable levelNames (typeOf parent) ∧ ¬IssueType.TellsEpic levelNames (typeOf parent) then none
  else parent.key?

-- A parent of whose type nothing is told, although there is one.
structure HasEmptyType (levelNames : List String) (parent : Json) : Prop where
  object : (typeOf parent).isObject
  level  : ((typeOf parent).under? levelNames).getD .null = .null
  name   : (typeOf parent).getD "name" = .null

end Parent

variable {type parent : Json} {fields : Table Json} {levelNames : List String} {value : Option Json}

theorem toOption_optional_integer (value : Option Json) :
    (Json.optional Json.integer (value.getD .null)).toOption =
    if Json.isIntegerIfAny value then some (value.bind fun j => (Json.integer j).toOption) else none := by
  have hm (r : Except Complaint Int) :
      (r.map some).toOption = if r.toOption.isSome then some r.toOption else none := by
    cases r <;> rfl
  cases value with
  | none => rfl
  | some j =>
    cases j with
    | null => rfl
    | bool | int | real | str | arr | obj =>
      simp only [Option.getD_some, Json.optional, Json.isIntegerIfAny, Option.bind_some]
      exact hm _

theorem normalizeLabel_textOrNull? {name : Option String}
    (h : Json.textOrNull? (value.getD .null) = some name) :
    normalizeLabel name = (value.getD .null).comparable := by
  cases hj : value.getD .null with
  | null | str =>
    rw [hj] at h
    cases h
    rfl
  | bool | int | real | arr | obj =>
    rw [hj] at h
    cases h

-- A type is read if it is readable, and then it is an epic's if it says so.
theorem all_isEpic_iff {type : Json} : (IssueType.ofJson? type).all (·.isEpic) ↔
    (IssueType.IsReadable IssueType.levelNames type → IssueType.TellsEpic IssueType.levelNames type) := by
  rw [IssueType.IsReadable, IssueType.TellsEpic]
  cases type with
  | obj fields =>
    have hl := toOption_optional_integer ((Json.obj fields).under? IssueType.levelNames)
    have hn := Json.isSome_textOrNull? (Table.get? fields "name")
    rw [IssueType.ofJson?, IssueType.ofFields?, Json.either_eq, ← IssueType.levelNames, hl, Json.get?, ← hn]
    cases hi : Json.isIntegerIfAny ((Json.obj fields).under? IssueType.levelNames) with
    | false => simp
    | true =>
      cases ht : Json.textOrNull? ((Table.get? fields "name").getD .null) with
      | none => simp
      | some name => simp [Json.isObject, IssueType.isEpic, normalizeLabel_textOrNull? ht]
  | null | bool | int | real | str | arr => simp [IssueType.ofJson?, Json.isObject]

theorem ofJson?_parent (parent : Json) : Parent.ofJson? parent = parent.key?.map fun key =>
    { key := some key, type := IssueType.ofJson? (Parent.typeOf parent) } := by
  rw [Parent.ofJson?, Json.key?, Json.getD]
  cases parent.get? "key" with
  | none => rfl
  | some key =>
    cases key with
    | str key => by_cases hk : key = "" <;> simp [Parent.typeOf, hk]
    | null | bool | int | real | arr | obj => rfl

theorem namedKeys_parent (parent : Json) :
    namedKeys ((Parent.ofJson? parent).toList.map (·.key)) = parent.key?.toList := by
  rw [ofJson?_parent]
  cases hk : parent.key? with
  | none => rfl
  | some key => simp [namedKeys, Json.key?_ne_empty hk]

theorem namedKeys_epic (parent : Json) :
    namedKeys (((Parent.ofJson? parent).toList.filter (·.mayBeEpic)).map (·.key)) =
      (Parent.epicKey? IssueType.levelNames parent).toList := by
  rw [ofJson?_parent, Parent.epicKey?]
  cases hk : parent.key? with
  | none => simp [namedKeys]
  | some key =>
    have hm : Parent.mayBeEpic { key := some key, type := IssueType.ofJson? (Parent.typeOf parent) } ↔ _ :=
      all_isEpic_iff
    by_cases he : IssueType.IsReadable IssueType.levelNames (Parent.typeOf parent) →
        IssueType.TellsEpic IssueType.levelNames (Parent.typeOf parent)
    case pos =>
      rw [if_neg fun hn => hn.2 (he hn.1)]
      simp [hm.mpr he, namedKeys, Json.key?_ne_empty hk]
    case neg =>
      rw [if_pos (Classical.not_imp.mp he)]
      simp [mt hm.mp he, namedKeys]

theorem namedKeys_subtasks (items : List Json) :
    namedKeys ((items.filterMap IssueRef.ofJson?).map (·.key)) = items.filterMap (·.key?) := by
  have hk (j : Json) : namedKeys ((IssueRef.ofJson? j).toList.flatMap fun r => [r.key]) = j.key?.toList := by
    rw [← List.map_eq_flatMap, namedKeys_reference]
  rw [List.map_eq_flatMap, namedKeys_filterMap, funext hk, List.filterMap_eq_flatMap_toList]

theorem eq_none_or_null (h : value.getD .null = .null) : value = none ∨ value = some .null := by
  cases value with
  | none => exact .inl rfl
  | some j => exact .inr (congrArg some h)

-- A type of which nothing is told can be read, and is not known to be an epic's.
theorem epicKey?_of_hasEmptyType (h : Parent.HasEmptyType levelNames parent) :
    Parent.epicKey? levelNames parent = none := by
  have hr : IssueType.IsReadable levelNames (Parent.typeOf parent) := by
    refine ⟨h.object, ?_, ?_⟩
    case refine_1 => rcases eq_none_or_null h.level with hl | hl <;> rw [hl] <;> rfl
    case refine_2 => rcases eq_none_or_null h.name with hn | hn <;> rw [hn] <;> rfl
  have hn : ¬IssueType.TellsEpic levelNames (Parent.typeOf parent) := by
    rw [IssueType.TellsEpic, h.name]
    rcases eq_none_or_null h.level with hl | hl <;> rw [hl] <;> decide
  exact if_pos ⟨hr, hn⟩

theorem related_of_ne_linked {relation : Relation} (h : relation ≠ .linked) (f g : Option LinkFilter)
    (issue : Issue) : issue.related relation f = issue.related relation g := by
  cases relation with
  | linked => contradiction
  | parent | epicOf | subtask => rfl

-- Parents, epics and subtasks are the ones that the entries tell, in the order of the entries, each once. Nothing
-- told of a type is no epic's type, and no filter changes any of this.
theorem hierarchy_keys_of_entries (entries : List Json) (issues : List Issue) (f : Option LinkFilter)
    (h : entries.mapM Issue.ofJson = .ok issues) :
    extractKeys issues .parent f =
      (entries.filterMap fun entry => (Issue.piece entry "parent").key?).eraseDups ∧
    extractKeys issues .epicOf f = (entries.filterMap fun entry =>
      Parent.epicKey? IssueType.levelNames (Issue.piece entry "parent")).eraseDups ∧
    extractKeys issues .subtask f = (entries.flatMap fun entry =>
      (Issue.piece entry "subtasks").itemsD.filterMap (·.key?)).eraseDups ∧
    (∀ parent, Parent.HasEmptyType IssueType.levelNames parent →
      Parent.epicKey? IssueType.levelNames parent = none) ∧
    ∀ relation, relation ≠ .linked → ∀ g, extractKeys issues relation g = extractKeys issues relation f := by
  refine ⟨?_, ?_, ?_, fun _ => epicKey?_of_hasEmptyType, ?_⟩
  case refine_1 =>
    rw [List.filterMap_eq_flatMap_toList]
    refine extractKeys_of_entries (fun entry issue ho => ?_) h
    rw [Issue.eq_ofPieces_of_ofJson ho]
    exact namedKeys_parent _
  case refine_2 =>
    rw [List.filterMap_eq_flatMap_toList]
    refine extractKeys_of_entries (fun entry issue ho => ?_) h
    rw [Issue.eq_ofPieces_of_ofJson ho]
    exact namedKeys_epic _
  case refine_3 =>
    refine extractKeys_of_entries (fun entry issue ho => ?_) h
    rw [Issue.eq_ofPieces_of_ofJson ho]
    exact namedKeys_subtasks _
  case refine_4 =>
    intro relation hr g
    rw [extractKeys, extractKeys, funext (related_of_ne_linked hr g f)]

-- The first parent has its level in a text, the second one has a type of which nothing is told, that of the third
-- one cannot be read, and the last one has its level under the other name and its key is met again.
theorem hierarchy_keys_of_entries_by_level :
    let child (parent : List (String × Json)) : Json := .obj [("fields", .obj [("parent", .obj parent)])]
    let typed (key : String) (type : List (String × Json)) : List (String × Json) :=
      [("key", .str key), ("fields", .obj [("issuetype", .obj type)])]
    let entries : List Json := [
      child (typed "A-1" [("hierarchyLevel", .str " 1 "), ("name", .str "Feature")]), child (typed "A-2" []),
      child (typed "A-3" [("hierarchyLevel", .str "high")]),
      child (typed "A-4" [("name", .str " EPIC "), ("hierarchyLevel", .null), ("hierarchy_level", .str "high")]),
      .obj [("fields", .obj [("subtasks", .arr [.obj [("key", .str "A-6")], .str "A-7", .obj [("key", .int 8)]])])],
      child [("key", .str "")], child (typed "A-1" [("hierarchy_level", .int 1)])]
    ∃ issues, entries.mapM Issue.ofJson = .ok issues ∧
      extractKeys issues .parent none = ["A-1", "A-2", "A-3", "A-4"] ∧
      extractKeys issues .epicOf none = ["A-1", "A-3", "A-4"] ∧
      extractKeys issues .subtask (some { hint := some "blocks" }) = ["A-6"] := by
  intro child typed entries
  have h : entries.mapM Issue.ofJson = .ok _ := rfl
  have ⟨hparent, hepic, hsubtask, _, hfilter⟩ := hierarchy_keys_of_entries entries _ none h
  refine ⟨_, h, hparent.trans (by decide +kernel), hepic.trans (by decide +kernel), ?_⟩
  exact (hfilter .subtask (by decide) _).trans (hsubtask.trans (by decide +kernel))

-- The level is not read under its first name alone.
theorem epics_are_read_under_second_name :
    ¬∀ (entries : List Json) (issues : List Issue), entries.mapM Issue.ofJson = .ok issues →
      extractKeys issues .epicOf none = (entries.filterMap fun entry =>
        Parent.epicKey? ["hierarchyLevel"] (Issue.piece entry "parent")).eraseDups := by
  intro h
  let type : Json := .obj [("hierarchy_level", .int 1)]
  let parent : Json := .obj [("key", .str "A-1"), ("fields", .obj [("issuetype", type)])]
  have hk := h [.obj [("fields", .obj [("parent", parent)])]] _ rfl
  exact absurd hk (by decide +kernel)

end RelatedIssues
