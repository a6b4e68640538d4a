import Mathlib.Data.List.Nodup
import RelatedIssues.Table

namespace RelatedIssues.Table

variable {α β : Type} {t u : Table α} {entry : String × α} {name : String} {value : α}

@[simp]
theorem names_nil : names ([] : Table α) = [] :=
  rfl

@[simp]
theorem names_cons : names (entry :: t) = entry.1 :: names t :=
  rfl

@[simp]
theorem names_append : names (t ++ u) = names t ++ names u :=
  List.map_append

theorem get?_eq_none_iff : t.get? name = none ↔ name ∉ t.names := by
  rw [get?, Option.map_eq_none_iff, List.find?_eq_none, names, List.mem_map]
  simp only [decide_eq_true_eq, not_exists, not_and]

theorem mem_of_get? (h : t.get? name = some value) : (name, value) ∈ t := by
  have ⟨entry, hf, hv⟩ := Option.map_eq_some_iff.mp h
  have hn : entry.1 = name := by simpa using List.find?_some hf
  rw [← hn, ← hv]
  exact List.mem_of_find?_eq_some hf

theorem get?_of_mem (hn : t.names.Nodup) (h : (name, value) ∈ t) : t.get? name = some value := by
  induction t with
  | nil => cases h
  | cons entry t ih =>
    have ⟨hm, hn⟩ := List.nodup_cons.mp hn
    rw [get?_cons]
    cases h with
    | head => exact if_pos rfl
    | tail _ h =>
      have he : entry.1 ≠ name := fun he => hm (List.mem_map.mpr ⟨_, h, he.symm⟩)
      rw [if_neg he, ih hn h]

theorem get?_perm (hn : t.names.Nodup) (hp : t.Perm u) : t.get? name = u.get? name := by
  have hu : u.names.Nodup := (hp.map _).nodup_iff.mp hn
  ext value
  constructor
  case mp => exact fun h => get?_of_mem hu (hp.mem_iff.mp (mem_of_get? h))
  case mpr => exact fun h => get?_of_mem hn (hp.mem_iff.mpr (mem_of_get? h))

-- A table is known by the values of its names, up to its order.
theorem perm_of_get?_eq (ht : t.names.Nodup) (hu : u.names.Nodup) (h : ∀ name, t.get? name = u.get? name) :
    t.Perm u := by
  refine (List.perm_ext_iff_of_nodup (.of_map _ ht) (.of_map _ hu)).mpr fun (name, value) => ?_
  constructor
  case mp => exact fun hm => mem_of_get? (h name ▸ get?_of_mem ht hm)
  case mpr => exact fun hm => mem_of_get? (h name ▸ get?_of_mem hu hm)

theorem get?_append : get? (t ++ u) name = (t.get? name).or (u.get? name) := by
  rw [get?, List.find?_append, Option.map_or, ← get?, ← get?]

theorem get?_mapValues (g : α → β) :
    get? (t.map fun entry => (entry.1, g entry.2)) name = (t.get? name).map g := by
  induction t with
  | nil => rfl
  | cons entry t ih =>
    rw [List.map_cons, get?_cons, ih, get?_cons]
    split <;> rfl

theorem names_mapValues (g : α → β) : names (t.map fun entry => (entry.1, g entry.2)) = t.names := by
  rw [names, List.map_map]
  rfl

theorem insert_of_not_mem (h : name ∉ t.names) : t.insert name value = t ++ [(name, value)] := by
  induction t with
  | nil => rfl
  | cons entry t ih =>
    have ⟨he, ht⟩ := not_or.mp (mt List.mem_cons.mpr h)
    rw [insert, if_neg (Ne.symm he), ih ht, List.cons_append]

theorem names_insert_of_mem (h : name ∈ t.names) : (t.insert name value).names = t.names := by
  induction t with
  | nil => cases h
  | cons entry t ih =>
    rw [insert]
    split
    case isTrue he => rw [names_cons, names_cons, he]
    case isFalse he => rw [names_cons, names_cons, ih (List.mem_of_ne_of_mem (Ne.symm he) h)]

theorem nodup_names_insert (h : t.names.Nodup) : (t.insert name value).names.Nodup := by
  by_cases hm : name ∈ t.names
  case pos => rwa [names_insert_of_mem hm]
  case neg =>
    rw [insert_of_not_mem hm, names_append, names_cons, names_nil, ← List.concat_eq_append]
    exact h.concat hm

theorem mem_names_insert {other : String} :
    other ∈ (t.insert name value).names ↔ other = name ∨ other ∈ t.names := by
  by_cases hm : name ∈ t.names
  case pos =>
    rw [names_insert_of_mem hm]
    exact ⟨.inr, fun h => h.elim (· ▸ hm) id⟩
  case neg => simp [insert_of_not_mem hm, or_comm]

theorem insert_insert {value' : α} : (t.insert name value).insert name value' = t.insert name value' := by
  induction t with
  | nil => simp [insert]
  | cons entry t ih => by_cases he : entry.1 = name <;> simp [insert, he, ih]

-- A name that stands in a table already keeps its place, so it does not matter whether another one comes in before.
theorem insert_comm {other : String} {value' : α} (h : name ∈ t.names) (hn : name ≠ other) :
    (t.insert other value').insert name value = (t.insert name value).insert other value' := by
  induction t with
  | nil => cases h
  | cons entry t ih =>
    by_cases he : entry.1 = name
    case pos => simp [insert, he, hn]
    case neg =>
      have ht : name ∈ names t := List.mem_of_ne_of_mem (Ne.symm he) h
      by_cases ho : entry.1 = other <;> simp [insert, he, ho, hn.symm, ih ht]

theorem mem_insert (h : entry ∈ t.insert name value) : entry = (name, value) ∨ entry ∈ t := by
  induction t with
  | nil => exact .inl (List.mem_singleton.mp h)
  | cons first t ih =>
    rw [insert] at h
    split at h
    case isTrue => exact (List.mem_cons.mp h).imp_right (List.mem_cons_of_mem _)
    case isFalse =>
      cases h with
      | head => exact .inr List.mem_cons_self
      | tail _ h => exact (ih h).imp_right (List.mem_cons_of_mem _)

theorem nodup_names_override (h : t.names.Nodup) : (t.override u).names.Nodup := by
  induction u generalizing t with
  | nil => exact h
  | cons entry u ih => exact ih (nodup_names_insert h)

theorem mem_override (h : entry ∈ t.override u) : entry ∈ u ∨ entry ∈ t := by
  induction u generalizing t with
  | nil => exact .inr h
  | cons first u ih =>
    rcases ih h with hu | hi
    case inl => exact .inl (List.mem_cons_of_mem _ hu)
    case inr =>
      rcases mem_insert hi with rfl | ht
      case inl => exact .inl List.mem_cons_self
      case inr => exact .inr ht

theorem override_append {w : Table α} : t.override (u ++ w) = (t.override u).override w :=
  List.foldl_append

theorem insert_override (h : name ∈ t.names) (hu : name ∉ u.names) :
    (t.override u).insert name value = (t.insert name value).override u := by
  induction u generalizing t with
  | nil => rfl
  | cons entry u ih =>
    have ⟨he, hu⟩ := not_or.mp (mt List.mem_cons.mpr hu)
    rw [override_cons, override_cons, ih (mem_names_insert.mpr (.inr h)) hu, insert_comm h he]

theorem override_insert (h : u.names.Nodup) :
    t.override (u.insert name value) = (t.override u).insert name value := by
  induction u generalizing t with
  | nil => rfl
  | cons entry u ih =>
    have ⟨hm, hn⟩ := List.nodup_cons.mp h
    rw [insert]
    split
    case isTrue he =>
      subst he
      rw [override_cons, override_cons, insert_override (mem_names_insert.mpr (.inl rfl)) hm, insert_insert]
    case isFalse => rw [override_cons, override_cons, ih hn]

theorem override_override {w : Table α} (h : u.names.Nodup) :
    t.override (u.override w) = (t.override u).override w := by
  induction w generalizing u with
  | nil => rfl
  | cons entry w ih => rw [override_cons, override_cons, ih (nodup_names_insert h), override_insert h]

-- Of the values that a table has for a name, the last one overrides.
theorem get?_override_eq : (t.override u).get? name = (get? u.reverse name).or (t.get? name) := by
  induction u generalizing t with
  | nil => rfl
  | cons entry u ih =>
    rw [override_cons, ih, get?_insert, List.reverse_cons, get?_append, get?_cons, get?_nil, Option.or_assoc]
    split <;> rfl

theorem get?_override (h : u.names.Nodup) :
    (t.override u).get? name = (u.get? name).or (t.get? name) := by
  rw [get?_override_eq, ← get?_perm h u.reverse_perm.symm]

theorem override_eq_append (h : (t ++ u).names.Nodup) : t.override u = t ++ u := by
  induction u generalizing t with
  | nil => rw [List.append_nil, override_nil]
  | cons entry u ih =>
    have hs : t ++ entry :: u = (t ++ [entry]) ++ u := List.append_cons ..
    have hm : entry.1 ∉ t.names := fun hm => by
      rw [names_append, names_cons] at h
      exact (List.nodup_append.mp h).2.2 _ hm _ List.mem_cons_self rfl
    rw [override_cons, insert_of_not_mem hm, ih (hs ▸ h), hs]

end RelatedIssues.Table
