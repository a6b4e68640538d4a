import Mathlib
import RelatedIssues.Proofs.Settings.EnvFile

namespace RelatedIssues.EnvFile

-- The name and the value that a line sets.
def setting? (line : List Char) : Option (String × String) :=
  Option.map (fun entry => (.ofList entry.1, .ofList entry.2)) <| entry? line

-- The value of a variable after some lines, which is the last one that they set.
def valueAfter? (ls : List (List Char)) (name : String) : Option String :=
  Table.get? (ls.filterMap setting?).reverse name

-- Lines that set nothing.
inductive SetsNothing (line : List Char) : Prop
  | blank (h : ∀ c ∈ line, Text.isBlank c)
  | comment (h : (Text.trim line).head? = some '#')
  | unmarked (h : '=' ∉ line)

-- Changes to lines that leave the variables as they are: lines for different names are put into another order, or
-- there is one more line, which sets nothing or sets a name without changing its last value.
inductive Recasts : List (List Char) → List (List Char) → Prop
  | permuted (names : (Table.names (ls.filterMap setting?)).Nodup) (h : ls.Perm ls') : Recasts ls ls'
  | idle (h : SetsNothing line) : Recasts (as ++ bs) (as ++ line :: bs)
  | repeated (h : setting? line = some (name, value))
      (last : valueAfter? (as ++ line :: bs) name = valueAfter? (as ++ bs) name) :
    Recasts (as ++ bs) (as ++ line :: bs)

-- A text with a line for each entry below the heading, in the order of their names, in which no name stands twice.
-- Names are compared by their code points.
structure IsCanonical (text : String) (entries : Table String) : Prop where
  lines : text = heading ++ "\n" ++ String.join (entries.map fun entry => entry.1 ++ "=" ++ entry.2 ++ "\n")
  order : entries.names.Pairwise (· < ·)

section

variable {line : List Char} {ls ls' as bs : List (List Char)} {name : String}

theorem setting?_eq_none (h : SetsNothing line) : setting? line = none := by
  have ha : ∀ line' : List Char, '=' ∉ line' → assignment? line' = none := fun line' hn => by
    refine Option.eq_none_iff_forall_ne_some.mpr fun (name, value) he => ?_
    have ⟨written, rest, hl, _⟩ := assignment?_eq_some_iff.mp he
    exact hn (by simp [hl])
  rw [setting?, Option.map_eq_none_iff, entry?]
  split
  case h_1 => rfl
  case h_2 hc =>
    cases h with
    | blank h => exact ha _ (by simp [Text.trimBy_eq_nil_iff.mpr h])
    | comment h =>
      have ⟨rest, hr⟩ := List.head?_eq_some_iff.mp h
      exact absurd hr (hc rest)
    | unmarked h => exact ha _ (mt (Text.trimBy_sublist ..).mem h)

theorem valueAfter?_append : valueAfter? (as ++ bs) name = (valueAfter? bs name).or (valueAfter? as name) := by
  rw [valueAfter?, List.filterMap_append, List.reverse_append, Table.get?_append, ← valueAfter?, ← valueAfter?]

theorem valueAfter?_cons : valueAfter? (line :: ls) name = (valueAfter? ls name).or (valueAfter? [line] name) :=
  @valueAfter?_append [line] ls name

theorem Recasts.valueAfter?_eq (h : Recasts ls ls') (name : String) : valueAfter? ls name = valueAfter? ls' name := by
  cases h with
  | permuted names h =>
    have hr : (ls.filterMap setting?).reverse.Perm (ls'.filterMap setting?).reverse :=
      (List.reverse_perm _).trans ((h.filterMap _).trans (List.reverse_perm _).symm)
    exact Table.get?_perm (((List.reverse_perm _).map _).nodup_iff.mpr names) hr
  | @idle line as bs h =>
    have hn : valueAfter? [line] name = none := by simp [valueAfter?, setting?_eq_none h]
    rw [valueAfter?_append, valueAfter?_append, valueAfter?_cons, hn, Option.or_none]
  | @repeated line name' value as bs h last =>
    by_cases hn : name' = name
    case pos => rw [← hn, last]
    case neg =>
      have ho : valueAfter? [line] name = none := by simp [valueAfter?, h, Table.get?_cons, hn]
      rw [valueAfter?_append, valueAfter?_append, valueAfter?_cons, ho, Option.or_none]

theorem valueAfter?_eq_of_recasts (h : Relation.EqvGen Recasts ls ls') (name : String) :
    valueAfter? ls name = valueAfter? ls' name := by
  induction h with
  | rel _ _ h => exact h.valueAfter?_eq name
  | refl => rfl
  | symm _ _ _ ih => exact ih.symm
  | trans _ _ _ _ _ ih ih' => exact ih.trans ih'

end

variable {t u : Table String} {existing existing' : Option String} {writes writes' : Writes} {name : String}

theorem get?_read {text : String} : (read text).get? name = valueAfter? (Text.lines text.toList) name := by
  rw [read_eq, List.map_filterMap, Table.get?_override_eq, Table.get?_nil, Option.or_none]
  rfl

theorem nodup_names_merged : ((readIfAny existing).override writes.values).names.Nodup :=
  Table.nodup_names_override (writable_readIfAny existing).distinct

theorem sorted_perm : (sorted t).Perm t :=
  List.mergeSort_perm ..

theorem pairwise_sorted (h : t.names.Nodup) : (sorted t).Pairwise (·.1 < ·.1) := by
  have hs : (sorted t).Pairwise fun a b => decide (a.1 ≤ b.1) :=
    List.pairwise_mergeSort (fun _ _ _ => by simpa using String.le_trans)
      (fun _ _ => by simpa using String.le_total ..) t
  have hn : (sorted t).Pairwise (·.1 ≠ ·.1) := List.pairwise_map.mp ((sorted_perm.map _).nodup_iff.mpr h)
  exact (hs.and hn).imp fun ⟨hl, hne⟩ => Std.lt_of_le_of_ne (of_decide_eq_true hl) hne

-- What is written is told by the values of the variables.
theorem render_eq_of_get?_eq (ht : t.names.Nodup) (hu : u.names.Nodup) (h : ∀ name, t.get? name = u.get? name) :
    render t = render u := by
  have hp : (sorted t).Perm (sorted u) := sorted_perm.trans ((Table.perm_of_get?_eq ht hu h).trans sorted_perm.symm)
  have hs : sorted t = sorted u :=
    hp.eq_of_pairwise (fun _ _ _ _ hl hg => absurd hg (String.lt_asymm hl)) (pairwise_sorted ht) (pairwise_sorted hu)
  rw [render, render, hs]

theorem isCanonical_render (h : t.names.Nodup) : IsCanonical (render t) (sorted t) where
  lines := rfl
  order := List.pairwise_map.mpr (pairwise_sorted h)

theorem update_eq_of_over?_eq (h : writes.names.Nodup) (h' : writes'.names.Nodup)
    (ho : ∀ name, writes.over? (readIfAny existing) name = writes'.over? (readIfAny existing') name) :
    update existing writes = update existing' writes' := by
  refine render_eq_of_get?_eq nodup_names_merged nodup_names_merged fun name => ?_
  rw [get?_override_values h, get?_override_values h', ho name]

-- The text that is written has one form, which is told by the variables that were in the file and those that are
-- written over them. So it stays the same if the lines of the file are recast, or if the writes are put into another
-- order.
theorem update_is_canonical (existing : Option String) (writes : Writes) (h : writes.names.Nodup) :
    (∃ entries, IsCanonical (update existing writes) entries ∧
      ∀ name, entries.get? name = writes.over? (readIfAny existing) name) ∧
    (∀ existing' writes', writes'.names.Nodup →
      (∀ name, writes.over? (readIfAny existing) name = writes'.over? (readIfAny existing') name) →
      update existing writes = update existing' writes') ∧
    (∀ text text', Relation.EqvGen Recasts (Text.lines text.toList) (Text.lines text'.toList) →
      update (some text) writes = update (some text') writes) ∧
    ∀ writes', writes.Perm writes' → update existing writes = update existing writes' := by
  refine ⟨?form, ?mapping, ?recast, ?order⟩
  case form =>
    refine ⟨_, isCanonical_render nodup_names_merged, fun name => ?_⟩
    rw [← get?_override_values h, ← Table.get?_perm nodup_names_merged sorted_perm.symm]
  case mapping => exact fun _ _ h' ho => update_eq_of_over?_eq h h' ho
  case recast =>
    intro text text' hr
    refine update_eq_of_over?_eq h h fun name => ?_
    have hv : (read text).get? name = (read text').get? name := by
      rw [get?_read, get?_read, valueAfter?_eq_of_recasts hr]
    exact congrArg (Option.or _) hv
  case order =>
    intro writes' hp
    have h' : (Table.names writes').Nodup := (hp.map _).nodup_iff.mp h
    refine update_eq_of_over?_eq h h' fun name => ?_
    rw [Writes.over?, Writes.over?, Table.get?_perm h hp]

-- The lines change places, and a first value that does not last, a comment and a line without a mark come in, with
-- other breaks between them.
theorem update_is_canonical_of_recast_lines :
    let writes : Writes := [("C", some "x"), ("A", none)]
    let text := "B=1\nA='2'"
    let text' := "# old\r\nA=0\u2028A='2'\rB=1\nnothing"
    (Table.names writes).Nodup ∧ Relation.EqvGen Recasts (Text.lines text.toList) (Text.lines text'.toList) ∧
    update (some text) writes = "# jql-relations user config (.env)\nA=2\nB=1\nC=x\n" ∧
    update (some text') writes = update (some text) writes ∧
    update (some text) writes = update (some text) writes.reverse := by
  intro writes text text'
  let a := "A='2'".toList
  let b := "B=1".toList
  have hw : (Table.names writes).Nodup := by decide
  have hs : Recasts [b, a] [a, b] := .permuted (by decide +kernel) (.swap ..)
  have h0 : setting? "A=0".toList = some ("A", "0") := by decide +kernel
  have hr : Recasts ([] ++ [a, b]) ([] ++ "A=0".toList :: [a, b]) := .repeated h0 (by decide +kernel)
  have hc : Recasts ([] ++ ["A=0".toList, a, b]) ([] ++ "# old".toList :: ["A=0".toList, a, b]) :=
    .idle (.comment (by decide +kernel))
  have hn : Recasts (["# old".toList, "A=0".toList, a, b] ++ [])
      (["# old".toList, "A=0".toList, a, b] ++ ["nothing".toList]) := .idle (.unmarked (by decide))
  have hl : Text.lines text.toList = [b, a] := by decide +kernel
  have hl' : Text.lines text'.toList = ["# old".toList, "A=0".toList, a, b, "nothing".toList] := by decide +kernel
  have he : Relation.EqvGen Recasts (Text.lines text.toList) (Text.lines text'.toList) := by
    rw [hl, hl']
    exact .trans _ _ _ (.rel _ _ hs) (.trans _ _ _ (.rel _ _ hr) (.trans _ _ _ (.rel _ _ hc) (.rel _ _ hn)))
  have ⟨_, _, hrecast, horder⟩ := update_is_canonical (some text) writes hw
  exact ⟨hw, he, by cbv, (hrecast text text' he).symm, horder _ (List.reverse_perm _).symm⟩

end RelatedIssues.EnvFile
