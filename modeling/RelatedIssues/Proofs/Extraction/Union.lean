import RelatedIssues.Extraction
import RelatedIssues.Proofs.Distinct

namespace RelatedIssues

-- The keys that say something.
def namedKeys (keys : List (Option String)) : List String :=
  (keys.filterMap id).filter (· ≠ "")

variable {as bs issues : List Issue} {relation : Relation} {f : Option LinkFilter} {key : String}

theorem mem_namedKeys {keys : List (Option String)} :
    key ∈ namedKeys keys ↔ some key ∈ keys ∧ key ≠ "" := by
  simp [namedKeys]

theorem namedKeys_append (keys keys' : List (Option String)) :
    namedKeys (keys ++ keys') = namedKeys keys ++ namedKeys keys' := by
  rw [namedKeys, List.filterMap_append, List.filter_append, namedKeys, namedKeys]

theorem namedKeys_flatMap {α : Type} (l : List α) (g : α → List (Option String)) :
    namedKeys (l.flatMap g) = l.flatMap (namedKeys ∘ g) := by
  induction l with
  | nil => rfl
  | cons a l ih => rw [List.flatMap_cons, namedKeys_append, ih, List.flatMap_cons, Function.comp]

theorem namedKeys_filterMap {α β : Type} (l : List β) (read : β → Option α) (g : α → List (Option String)) :
    namedKeys ((l.filterMap read).flatMap g) = l.flatMap fun b => namedKeys ((read b).toList.flatMap g) := by
  rw [List.filterMap_eq_flatMap_toList, List.flatMap_assoc, namedKeys_flatMap]
  rfl

theorem extractKeys_eq : extractKeys issues relation f =
    (issues.flatMap fun issue => namedKeys (issue.related relation f)).eraseDups :=
  congrArg List.eraseDups (namedKeys_flatMap issues _)

theorem nodup_extractKeys : (extractKeys issues relation f).Nodup :=
  Distinct.nodup_eraseDups _

theorem mem_extractKeys : key ∈ extractKeys issues relation f ↔
    ∃ issue ∈ issues, some key ∈ issue.related relation f ∧ key ≠ "" := by
  simp only [extractKeys_eq, List.mem_eraseDups, List.mem_flatMap, mem_namedKeys]

theorem key_ne_empty_of_mem (h : key ∈ extractKeys issues relation f) : key ≠ "" :=
  have ⟨_, _, _, hn⟩ := mem_extractKeys.mp h
  hn

theorem extractKeys_append : extractKeys (as ++ bs) relation f = extractKeys as relation f ++
    (extractKeys bs relation f).filter (· ∉ extractKeys as relation f) := by
  rw [extractKeys_eq, List.flatMap_append, Distinct.eraseDups_append, ← extractKeys_eq, ← extractKeys_eq]

theorem extractKeys_prefix (h : as <+: bs) :
    extractKeys as relation f <+: extractKeys bs relation f :=
  Distinct.eraseDups_prefix (((h.flatMap _).filterMap _).filter _)

-- More issues of the same kind lead to the same keys and more.
theorem mem_extractKeys_of_subset (hs : as ⊆ bs) (h : key ∈ extractKeys as relation f) :
    key ∈ extractKeys bs relation f :=
  have ⟨issue, hi, hk⟩ := mem_extractKeys.mp h
  mem_extractKeys.mpr ⟨issue, hs hi, hk⟩

theorem extractKeys_append_of_subset (h : bs ⊆ as) :
    extractKeys (as ++ bs) relation f = extractKeys as relation f := by
  have hn : (extractKeys bs relation f).filter (· ∉ extractKeys as relation f) = [] :=
    List.filter_eq_nil_iff.mpr fun key hk => by simpa using mem_extractKeys_of_subset h hk
  rw [extractKeys_append, hn, List.append_nil]

-- The keys of two lists are those of the first one and behind them the new ones of the second. So the first ones
-- are not moved, an issue that comes again adds nothing, and in another order the issues lead to the same keys.
theorem extraction_joins_lists (as bs : List Issue) (relation : Relation) (f : Option LinkFilter) :
    extractKeys (as ++ bs) relation f = extractKeys as relation f ++
      (extractKeys bs relation f).filter (· ∉ extractKeys as relation f) ∧
    extractKeys as relation f <+: extractKeys (as ++ bs) relation f ∧
    (∀ issue ∈ as, extractKeys (as ++ [issue]) relation f = extractKeys as relation f) ∧
    ∀ cs, as.Perm cs → ∀ key, key ∈ extractKeys as relation f ↔ key ∈ extractKeys cs relation f := by
  refine ⟨extractKeys_append, extractKeys_prefix (List.prefix_append ..), ?_, ?_⟩
  case refine_1 =>
    intro issue hi
    exact extractKeys_append_of_subset (List.cons_subset.mpr ⟨hi, List.nil_subset _⟩)
  case refine_2 =>
    intro cs hp key
    exact ⟨mem_extractKeys_of_subset hp.subset, mem_extractKeys_of_subset hp.symm.subset⟩

-- Both issues lead to the second key. Behind the other one the first issue has its other key last.
theorem extraction_joins_lists_with_common_key :
    let a : Issue := { subtasks := [{ key := some "A-1" }, { key := some "A-2" }] }
    let b : Issue := { subtasks := [{ key := some "A-3" }, { key := some "" }, { key := some "A-2" }] }
    extractKeys ([a] ++ [b]) .subtask none = ["A-1", "A-2", "A-3"] ∧
    extractKeys ([a, b] ++ [a]) .subtask none = extractKeys [a, b] .subtask none ∧
    extractKeys [b, a] .subtask none = ["A-3", "A-2", "A-1"] ∧
    ∀ key, key ∈ extractKeys [a, b] .subtask none ↔ key ∈ extractKeys [b, a] .subtask none := by
  intro a b
  have ⟨happend, _, _, _⟩ := extraction_joins_lists [a] [b] .subtask none
  have ⟨_, _, hagain, hperm⟩ := extraction_joins_lists [a, b] [] .subtask none
  exact ⟨happend.trans (by decide), hagain a List.mem_cons_self, by decide, hperm [b, a] (.swap b a [])⟩

end RelatedIssues
