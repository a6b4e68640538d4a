import RelatedIssues.Proofs.Table
import RelatedIssues.Proofs.Text.Lines
import RelatedIssues.Proofs.Text.Trim
import RelatedIssues.Settings.EnvFile

namespace RelatedIssues.EnvFile

-- A name that a line can set.
structure IsName (name : List Char) : Prop where
  nonempty : name ≠ []
  trimmed  : Text.IsTrimmed Text.isBlank name
  unmarked : '=' ∉ name
  unbroken : Text.HasNoBreak name
  start    : name.head? ≠ some '#'

instance {name : List Char} : Decidable (IsName name) :=
  decidable_of_iff (name ≠ [] ∧ Text.IsTrimmed Text.isBlank name ∧ '=' ∉ name ∧ Text.HasNoBreak name ∧
      name.head? ≠ some '#')
    ⟨fun ⟨h₁, h₂, h₃, h₄, h₅⟩ => ⟨h₁, h₂, h₃, h₄, h₅⟩,
      fun h => ⟨h.nonempty, h.trimmed, h.unmarked, h.unbroken, h.start⟩⟩

-- Variables that can have a line each.
structure Writable (vars : Table String) : Prop where
  distinct : vars.names.Nodup
  entries  : ∀ entry ∈ vars, IsName entry.1.toList ∧ Text.HasNoBreak entry.2.toList

-- Writes of variables that can have a line each.
structure Writes.WellFormed (writes : Writes) : Prop where
  distinct : writes.names.Nodup
  names    : ∀ entry ∈ writes, IsName entry.1.toList
  values   : ∀ entry ∈ writes, ∀ value ∈ entry.2, Text.HasNoBreak value.toList

-- What the value of a variable is meant to be after the writes.
def Writes.over? (writes : Writes) (vars : Table String) (name : String) : Option String :=
  (writes.get? name).join.or (vars.get? name)

def isBlankOrQuote (c : Char) : Bool :=
  Text.isBlank c || c = '"' || c = '\''

def unquoteText (value : String) : String :=
  .ofList (unquote value.toList)

section

variable {name value line : List Char}

-- A value loses nothing if neither blanks nor quotes stand at its ends.
theorem unquote_eq_self_iff : unquote value = value ↔ Text.IsTrimmed isBlankOrQuote value := by
  have hi : Text.IsTrimmed isBlankOrQuote value ↔ (Text.IsTrimmed Text.isBlank value ∧
      Text.IsTrimmed (· = '"') value) ∧ Text.IsTrimmed (· = '\'') value := by
    rw [← Text.isTrimmed_or, ← Text.isTrimmed_or]
    rfl
  rw [hi, ← Text.trimBy_eq_self_iff, ← Text.trimBy_eq_self_iff, ← Text.trimBy_eq_self_iff]
  constructor
  case mp =>
    intro h
    have hs := Text.trimBy_sublist Text.isBlank value
    have hd := Text.eq_of_trimBy_eq ((Text.trimBy_sublist _ _).trans hs) h
    have hb := Text.eq_of_trimBy_eq hs hd
    rw [unquote, hd] at h
    rw [hb] at hd
    exact ⟨⟨hb, hd⟩, h⟩
  case mpr =>
    intro ⟨⟨hb, hd⟩, hq⟩
    rw [unquote, Text.trim, hb, hd, hq]

theorem unquote_trimEndBy : unquote (Text.trimEndBy Text.isBlank value) = unquote value := by
  rw [unquote, Text.trim, Text.trimBy_trimEndBy, ← Text.trim, ← unquote]

theorem unquote_sublist : (unquote value).Sublist value :=
  (Text.trimBy_sublist ..).trans ((Text.trimBy_sublist ..).trans (Text.trimBy_sublist ..))

theorem assignment?_eq_some_iff : assignment? line = some (name, value) ↔
    ∃ written rest, line = written ++ '=' :: rest ∧ '=' ∉ written ∧ Text.trim written = name ∧
      unquote rest = value ∧ name ≠ [] := by
  constructor
  case mp =>
    intro h
    rw [assignment?] at h
    split at h
    case h_1 rest hd =>
      split at h
      case isTrue => cases h
      case isFalse hn =>
        cases h
        have hs : line = line.takeWhile (· ≠ '=') ++ '=' :: rest := by
          rw [← hd, List.takeWhile_append_dropWhile]
        have hw : '=' ∉ line.takeWhile (· ≠ '=') := fun hm => by simpa using List.mem_takeWhile_imp hm
        exact ⟨_, rest, hs, hw, rfl, rfl, hn⟩
    case h_2 => cases h
  case mpr =>
    intro ⟨written, rest, hl, hw, hn, hv, he⟩
    have hs : ∀ c ∈ written, decide (c ≠ '=') := fun c hc => decide_eq_true fun hq => hw (hq ▸ hc)
    have hr : ∀ c ∈ ('=' :: rest).head?, ¬decide (c ≠ '=') := by simp
    have ⟨ht, hd⟩ := span_append hs hr
    rw [hl, assignment?, ht, hd, hn, ← hv]
    exact if_neg he

-- A line that sets a variable is read as it was written, but for what is around the value.
theorem entry?_of_isName (h : IsName name) :
    entry? (name ++ '=' :: value) = some (name, unquote value) := by
  have ht : Text.trim (name ++ '=' :: value) = name ++ '=' :: Text.trimEndBy Text.isBlank value :=
    Text.trimBy_append_cons h.trimmed.start (by decide)
  have hm : Text.trim name = name := Text.trimBy_eq_self_iff.mpr h.trimmed
  unfold entry?
  rw [ht]
  split
  case h_1 hc =>
    refine absurd ?_ h.start
    cases name with
    | nil => exact absurd rfl h.nonempty
    | cons c name => exact congrArg some (List.cons.inj hc).1
  case h_2 => exact assignment?_eq_some_iff.mpr ⟨name, _, rfl, h.unmarked, hm, unquote_trimEndBy, h.nonempty⟩

theorem isName_of_entry_eq_some (hl : Text.HasNoBreak line) (h : entry? line = some (name, value)) :
    IsName name ∧ Text.HasNoBreak value := by
  have ht : Text.IsTrimmed Text.isBlank (Text.trim line) := Text.isTrimmed_trimBy
  have hb : Text.HasNoBreak (Text.trim line) := hl.sublist (Text.trimBy_sublist ..)
  unfold entry? at h
  split at h
  case h_1 => cases h
  case h_2 hc =>
    have ⟨written, rest, hs, hw, hn, hv, he⟩ := assignment?_eq_some_iff.mp h
    have ⟨before, behind, hws, ha, _, htn⟩ := Text.exists_split Text.isBlank written
    rw [← Text.trim, hn] at hws htn
    have hsn : name.Sublist written := hn ▸ Text.trimBy_sublist ..
    have hsw : written.Sublist (Text.trim line) := hs ▸ List.sublist_append_left ..
    have hsr : rest.Sublist (Text.trim line) :=
      hs ▸ (List.sublist_cons_self ..).trans (List.sublist_append_right ..)
    refine ⟨⟨he, htn, fun hm => hw (hsn.subset hm), hb.sublist (hsn.trans hsw), ?_⟩, ?_⟩
    case refine_1 =>
      intro hh
      have ⟨name', hd⟩ := List.head?_eq_some_iff.mp hh
      rw [hws, List.append_assoc] at hs
      have hn : before = [] := Text.IsTrimmed.eq_nil_of_forall_before (hs ▸ ht) ha
      rw [hn, hd] at hs
      exact hc _ hs
    case refine_2 => exact hb.sublist (hv ▸ unquote_sublist.trans hsr)

end

variable {vars t u : Table String} {existing : Option String} {writes : Writes} {name : String}

theorem Writable.override (ht : Writable t) (hu : Writable u) : Writable (t.override u) where
  distinct := Table.nodup_names_override ht.distinct
  entries entry he := (Table.mem_override he).elim (hu.entries entry) (ht.entries entry)

theorem writable_nil : Writable [] where
  distinct := List.nodup_nil
  entries := nofun

theorem read_eq {text : String} :
    read text = Table.override [] (((Text.lines text.toList).filterMap entry?).map fun entry =>
      (String.ofList entry.1, String.ofList entry.2)) :=
  rfl

-- What is read from a text can be written into one.
theorem writable_read (text : String) : Writable (read text) where
  distinct := Table.nodup_names_override List.nodup_nil
  entries entry he := by
    have hm := (Table.mem_override (read_eq ▸ he)).resolve_right List.not_mem_nil
    have ⟨⟨name, value⟩, ha, hs⟩ := List.mem_map.mp hm
    have ⟨line, hl, hr⟩ := List.mem_filterMap.mp ha
    have h := isName_of_entry_eq_some (Text.hasNoBreak_of_mem_lines hl) hr
    rw [← hs, String.toList_ofList, String.toList_ofList]
    exact h

theorem writable_readIfAny (existing : Option String) : Writable (readIfAny existing) := by
  cases existing with
  | none => exact writable_nil
  | some text => exact writable_read text

namespace Writes

theorem values_cons_none : Writes.values ((name, none) :: writes) = writes.values :=
  rfl

theorem values_cons_some {value : String} :
    Writes.values ((name, some value) :: writes) = (name, value) :: writes.values :=
  rfl

theorem mem_values {entry : String × String} : entry ∈ writes.values ↔ (entry.1, some entry.2) ∈ writes := by
  rw [values, List.mem_filterMap]
  constructor
  case mp =>
    intro ⟨⟨name, value⟩, hm, hv⟩
    have ⟨value', hs, he⟩ := Option.map_eq_some_iff.mp hv
    exact he ▸ hs ▸ hm
  case mpr => exact fun hm => ⟨_, hm, rfl⟩

theorem names_values_sublist : writes.values.names.Sublist writes.names := by
  induction writes with
  | nil => exact .slnil
  | cons entry writes ih =>
    have ⟨written, value⟩ := entry
    cases value with
    | none => exact ih.cons _
    | some value => exact ih.cons_cons _

theorem get?_values (h : writes.names.Nodup) : writes.values.get? name = (writes.get? name).join := by
  induction writes with
  | nil => rfl
  | cons entry writes ih =>
    have ⟨hm, hn⟩ := List.nodup_cons.mp h
    have ⟨written, value⟩ := entry
    cases value with
    | none =>
      rw [values_cons_none, ih hn, Table.get?_cons]
      split
      case isTrue he => rw [Table.get?_eq_none_iff.mpr (he ▸ hm), Option.join_none, Option.join_some]
      case isFalse => rfl
    | some value =>
      rw [values_cons_some, Table.get?_cons, ih hn, Table.get?_cons]
      split <;> rfl

theorem WellFormed.writable_values (h : writes.WellFormed) : Writable writes.values where
  distinct := h.distinct.sublist names_values_sublist
  entries _ he :=
    have hm := mem_values.mp he
    ⟨h.names _ hm, h.values _ hm _ rfl⟩

end Writes

-- The lines of a text are the heading and the variables in the order of their names.
theorem toList_render : (render vars).toList = (heading.toList :: (sorted vars).map fun entry =>
    entry.1.toList ++ '=' :: entry.2.toList).flatMap (· ++ ['\n']) := by
  simp [render, String.toList_join, List.flatMap_map]

theorem lines_render (h : Writable vars) : Text.lines (render vars).toList =
    heading.toList :: (sorted vars).map fun entry => entry.1.toList ++ '=' :: entry.2.toList := by
  rw [toList_render]
  refine Text.lines_of_ended (List.forall_mem_cons.mpr ⟨by decide +kernel, List.forall_mem_map.mpr ?_⟩)
  intro entry he
  have ⟨hn, hv⟩ := h.entries entry (List.mem_mergeSort.mp he)
  exact List.forall_mem_append.mpr ⟨hn.unbroken, List.forall_mem_cons.mpr ⟨by decide, hv⟩⟩

theorem read_render (h : Writable vars) :
    read (render vars) = (sorted vars).map fun entry => (entry.1, unquoteText entry.2) := by
  have hh : entry? heading.toList = none := by decide +kernel
  have hn : (sorted vars).names.Nodup := ((List.mergeSort_perm ..).map _).nodup_iff.mpr h.distinct
  have hs : ((sorted vars).map fun entry => entry.1.toList ++ '=' :: entry.2.toList).filterMap entry? =
      (sorted vars).map fun entry => (entry.1.toList, unquote entry.2.toList) := by
    rw [List.filterMap_map, ← List.filterMap_eq_map]
    refine List.filterMap_congr fun entry hm => ?_
    exact entry?_of_isName (h.entries entry (List.mem_mergeSort.mp hm)).1
  have hu : ((sorted vars).map fun entry => (entry.1.toList, unquote entry.2.toList)).map
      (fun entry => (String.ofList entry.1, String.ofList entry.2)) =
      (sorted vars).map fun entry => (entry.1, unquoteText entry.2) := by
    simp [unquoteText]
  rw [read_eq, lines_render h, List.filterMap_cons_none hh, hs, hu]
  exact Table.override_eq_append (by rwa [List.nil_append, Table.names_mapValues])

theorem get?_read_render (h : Writable vars) :
    (read (render vars)).get? name = (vars.get? name).map unquoteText := by
  rw [read_render h, Table.get?_mapValues, sorted, ← Table.get?_perm h.distinct (List.mergeSort_perm ..).symm]

-- After a write every variable has the value that it is meant to have.
theorem get?_override_values (h : writes.names.Nodup) :
    ((readIfAny existing).override writes.values).get? name = writes.over? (readIfAny existing) name := by
  rw [Table.get?_override (h.sublist Writes.names_values_sublist), Writes.get?_values h, Writes.over?]

theorem get?_read_update (h : writes.WellFormed) :
    (read (update existing writes)).get? name = (writes.over? (readIfAny existing) name).map unquoteText := by
  rw [update, get?_read_render ((writable_readIfAny existing).override h.writable_values),
    get?_override_values h.distinct]

theorem unquoteText_eq_self_iff {value : String} :
    unquoteText value = value ↔ Text.IsTrimmed isBlankOrQuote value.toList := by
  rw [← unquote_eq_self_iff, unquoteText, ← String.toList_inj, String.toList_ofList]

-- What a variable is meant to be is read back without the blanks and quotes around it. So a value is read back as
-- it was given, or as it was before, if and only if neither blanks nor quotes stand at its ends.
theorem update_is_read_back (existing : Option String) (writes : Writes) (h : writes.WellFormed)
    (name : String) :
    let meant := writes.over? (readIfAny existing) name
    let found := (read (update existing writes)).get? name
    found = meant.map unquoteText ∧
    ∀ value, meant = some value → (found = some value ↔ Text.IsTrimmed isBlankOrQuote value.toList) := by
  intro meant found
  have hf : found = meant.map unquoteText := get?_read_update h
  refine ⟨hf, fun value hm => ?_⟩
  rw [hf, hm, Option.map_some, Option.some_inj, unquoteText_eq_self_iff]

-- The first variable has its blanks within two pairs of quotes, the second one is left as it is, the third one has
-- a value in quotes and the fourth one a value with quotes inside.
theorem update_is_read_back_with_quotes :
    let existing := "# old\r\n A = '\" x \"'\u2028B=0\nB\t= 1"
    let writes : Writes := [("D", some "a \"b\" 'c' ="), ("B", none), ("C", some "\"c\"")]
    let after := read (update (some existing) writes)
    (read existing).get? "A" = some "\" x \"" ∧ after.get? "A" = some " x " ∧
    after.get? "B" = some "1" ∧ after.get? "C" = some "c" ∧ after.get? "D" = some "a \"b\" 'c' =" := by
  intro existing writes after
  have h : writes.WellFormed := ⟨by decide, by decide +kernel, by decide +kernel⟩
  have hr (name : String) := update_is_read_back (some existing) writes h name
  refine ⟨by decide +kernel, ?_, ?_, ?_, ?_⟩
  case refine_1 => exact (hr "A").1.trans (by decide +kernel)
  case refine_2 => exact ((hr "B").2 "1" (by decide +kernel)).mpr (by decide +kernel)
  case refine_3 => exact (hr "C").1.trans (by decide +kernel)
  case refine_4 => exact ((hr "D").2 _ (by decide +kernel)).mpr (by decide +kernel)

-- Values do not all come back as they were given.
theorem update_takes_values_out_of_quotes :
    ¬∀ (existing : Option String) (writes : Writes), writes.WellFormed →
      (∀ entry ∈ writes, ∀ value ∈ entry.2, Text.IsTrimmed Text.isBlank value.toList) →
      ∀ name, (read (update existing writes)).get? name = writes.over? (readIfAny existing) name := by
  intro h
  have hw : Writes.WellFormed [("JQL_RELATIONS_JIRA_API_TOKEN", some "\"secret\"")] :=
    ⟨by decide, by decide +kernel, by decide +kernel⟩
  have hk := h none _ hw (by decide +kernel) "JQL_RELATIONS_JIRA_API_TOKEN"
  rw [get?_read_update hw] at hk
  exact absurd hk (by decide +kernel)

end RelatedIssues.EnvFile
