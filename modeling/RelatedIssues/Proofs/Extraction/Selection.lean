import RelatedIssues.Proofs.Extraction.Union

namespace RelatedIssues

namespace Link

-- One of the three labels is the hint. A hint that is blank asks for no label.
def IsLabelled (hint : Option String) (link : Link) : Prop :=
  normalizeLabel hint = [] ∨ normalizeLabel hint = normalizeLabel link.type.name ∨
    normalizeLabel hint = normalizeLabel link.type.inward ∨ normalizeLabel hint = normalizeLabel link.type.outward

instance {hint : Option String} {link : Link} : Decidable (IsLabelled hint link) :=
  inferInstanceAs (Decidable (_ ∨ _))

-- The link with only the side that is wanted, or with both.
def towards (link : Link) : Option Direction → Link
  | none => link
  | some .inward => { link with outward := none }
  | some .outward => { link with inward := none }

end Link

namespace Issue

-- The issue with the links that a filter leaves, and of these the sides that it leaves.
def select (f : LinkFilter) (issue : Issue) : Issue :=
  { issue with links := (issue.links.filter (·.IsLabelled f.hint)).map (·.towards f.direction) }

-- The parent is an epic, or nobody knows what it is.
def HasEpic (issue : Issue) : Prop :=
  ∃ parent ∈ issue.parent, parent.type = none ∨
    ∃ type ∈ parent.type, type.level = some 1 ∨ normalizeLabel type.name = "epic".toList

instance {issue : Issue} : Decidable issue.HasEpic :=
  inferInstanceAs (Decidable (∃ parent ∈ issue.parent, _))

end Issue

section

variable {f : LinkFilter} {hint : Option String} {link : Link} {issue : Issue} {issues : List Issue}
  {key : Option String} {relation : Relation}

@[simp]
theorem admits_none : LinkFilter.admits none link :=
  rfl

@[simp]
theorem wants_none {side : Direction} : LinkFilter.wants none side :=
  rfl

theorem admits_some_iff : LinkFilter.admits (some f) link ↔ link.IsLabelled f.hint := by
  rw [LinkFilter.admits, Bool.or_eq_true, decide_eq_true_iff]
  simp [LinkFilter.normalizedHint, LinkType.labels, Link.IsLabelled]

theorem wants_some_iff {side : Direction} :
    LinkFilter.wants (some f) side ↔ ∀ d ∈ f.direction, d = side := by
  cases h : f.direction <;> simp [LinkFilter.wants, h]

-- A side that a filter does not want is as good as none.
theorem ends_some : link.ends (some f) =
    if link.IsLabelled f.hint then (link.towards f.direction).ends none else [] := by
  cases hd : f.direction with
  | none => simp [Link.ends, Link.towards, admits_some_iff, wants_some_iff, hd]
  | some d => cases d <;> simp [Link.ends, Link.towards, admits_some_iff, wants_some_iff, hd]

theorem related_select : (issue.select f).related .linked none = issue.related .linked (some f) := by
  simp only [Issue.related, Issue.select]
  induction issue.links with
  | nil => rfl
  | cons link links ih => by_cases h : link.IsLabelled f.hint <;> simp [h, ends_some, ih]

theorem extractKeys_select :
    extractKeys (issues.map (·.select f)) .linked none = extractKeys issues .linked (some f) := by
  simp [extractKeys, List.flatMap_map, related_select]

theorem mayBeEpic_iff {parent : Parent} : parent.mayBeEpic ↔ parent.type = none ∨
    ∃ type ∈ parent.type, type.level = some 1 ∨ normalizeLabel type.name = "epic".toList := by
  cases h : parent.type <;> simp [Parent.mayBeEpic, IssueType.isEpic, h]

theorem related_epicOf : issue.related .epicOf none =
    if issue.HasEpic then issue.related .parent none else [] := by
  cases h : issue.parent with
  | none => simp [Issue.related, h]
  | some parent =>
    have he : issue.HasEpic ↔ parent.mayBeEpic := by simp only [Issue.HasEpic, mayBeEpic_iff, h]; simp
    by_cases hm : parent.mayBeEpic <;> simp [Issue.related, h, he, hm]

theorem extractKeys_hasEpic :
    extractKeys (issues.filter (·.HasEpic)) .parent none = extractKeys issues .epicOf none := by
  refine congrArg distinctKeys ?_
  induction issues with
  | nil => rfl
  | cons issue issues ih => by_cases h : issue.HasEpic <;> simp [h, related_epicOf, ih]

theorem mem_ends {f : Option LinkFilter} : key ∈ link.ends f ↔ LinkFilter.admits f link ∧
    (LinkFilter.wants f .outward ∧ key ∈ link.outward.toList.map (·.key) ∨
      LinkFilter.wants f .inward ∧ key ∈ link.inward.toList.map (·.key)) := by
  by_cases ha : LinkFilter.admits f link <;> by_cases ho : LinkFilter.wants f .outward <;>
    by_cases hi : LinkFilter.wants f .inward <;> simp [Link.ends, ha, ho, hi]

theorem ends_subset : link.ends (some f) ⊆ link.ends none := by
  intro key h
  simp only [mem_ends, admits_none, wants_none, true_and] at h ⊢
  exact h.2.imp And.right And.right

theorem mem_ends_iff_sides : key ∈ link.ends (some { hint }) ↔
    key ∈ link.ends (some { hint, direction := some .inward }) ∨
      key ∈ link.ends (some { hint, direction := some .outward }) := by
  simp only [mem_ends, admits_some_iff, wants_some_iff, ← and_or_left]
  simp [or_comm]

theorem extractKeys_subset {relation' : Relation} {f f' : Option LinkFilter}
    (h : ∀ issue ∈ issues, issue.related relation f ⊆ issue.related relation' f') :
    extractKeys issues relation f ⊆ extractKeys issues relation' f' := by
  intro key hk
  have ⟨issue, hi, hr, hn⟩ := mem_extractKeys.mp hk
  exact mem_extractKeys.mpr ⟨issue, hi, h issue hi hr, hn⟩

theorem related_linked_subset : issue.related .linked (some f) ⊆ issue.related .linked none := by
  intro key h
  have ⟨link, hl, hk⟩ := List.mem_flatMap.mp h
  exact List.mem_flatMap.mpr ⟨link, hl, ends_subset hk⟩

theorem related_epicOf_subset : issue.related .epicOf none ⊆ issue.related .parent none :=
  List.map_subset _ (List.filter_subset_self _)

theorem mem_related_iff_sides : key ∈ issue.related .linked (some { hint }) ↔
    key ∈ issue.related .linked (some { hint, direction := some .inward }) ∨
      key ∈ issue.related .linked (some { hint, direction := some .outward }) := by
  simp only [Issue.related, List.mem_flatMap, mem_ends_iff_sides, and_or_left, exists_or]

end

-- Keys drawn through a filter are those drawn without one from what the filter selects, and epics are the parents of
-- the issues that have one. So a filter adds no key, every epic is a parent, and a hint leads to the keys that it leads
-- to inward and outward.
theorem filtering_selects_links (issues : List Issue) (f : LinkFilter) :
    extractKeys issues .linked (some f) = extractKeys (issues.map (·.select f)) .linked none ∧
    extractKeys issues .epicOf none = extractKeys (issues.filter (·.HasEpic)) .parent none ∧
    extractKeys issues .linked (some f) ⊆ extractKeys issues .linked none ∧
    extractKeys issues .epicOf none ⊆ extractKeys issues .parent none ∧
    ∀ hint key, key ∈ extractKeys issues .linked (some { hint }) ↔
      key ∈ extractKeys issues .linked (some { hint, direction := some .inward }) ∨
        key ∈ extractKeys issues .linked (some { hint, direction := some .outward }) := by
  refine ⟨extractKeys_select.symm, extractKeys_hasEpic.symm, ?_, ?_, ?_⟩
  case refine_1 => exact extractKeys_subset fun _ _ => related_linked_subset
  case refine_2 => exact extractKeys_subset fun _ _ => related_epicOf_subset
  case refine_3 =>
    intro hint key
    simp only [mem_extractKeys, mem_related_iff_sides, or_and_right, and_or_left, exists_or]

-- The first link has another label, so its key comes back behind that of the second one. The third link has the hint in
-- one label only, and its outward side is left out if the filter is for inward sides.
theorem filtering_selects_links_of_one_issue :
    let reference (key : String) : Option IssueRef := some { key := some key }
    let issue : Issue := {
      links := [
        { type := { name := some "Relates" }, outward := reference "A-1" },
        { type := { name := some " BLOCKS " }, outward := reference "A-2", inward := reference "A-1" },
        { type := { inward := some "blocks" }, outward := reference "A-3", inward := reference "A-4" }]
      parent := some { key := some "A-5", type := some { level := some 0, name := some "Epic " } } }
    let blocks : LinkFilter := { hint := some "blocks" }
    extractKeys [issue] .linked none = ["A-1", "A-2", "A-3", "A-4"] ∧
    extractKeys [issue] .linked (some blocks) = ["A-2", "A-1", "A-3", "A-4"] ∧
    extractKeys [issue] .linked (some { blocks with direction := some .inward }) = ["A-1", "A-4"] ∧
    extractKeys [issue] .epicOf none = ["A-5"] ∧
    "A-4" ∈ extractKeys [issue] .linked (some blocks) := by
  intro reference issue blocks
  have ⟨hboth, hepic, _, _, hsides⟩ := filtering_selects_links [issue] blocks
  have ⟨hinward, _⟩ := filtering_selects_links [issue] { blocks with direction := some .inward }
  have hkeys := hinward.trans (show _ = ["A-1", "A-4"] by decide +kernel)
  refine ⟨by decide +kernel, hboth.trans (by decide +kernel), hkeys, hepic.trans (by decide +kernel), ?_⟩
  exact (hsides blocks.hint "A-4").mpr (.inl (hkeys ▸ by decide))

end RelatedIssues
