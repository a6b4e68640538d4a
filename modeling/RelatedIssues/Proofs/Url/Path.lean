import RelatedIssues.Proofs.Url.Query
import RelatedIssues.Url.Parser

namespace RelatedIssues.Url

def steps (path : List Char) : List (List Char) :=
  path.splitOnP (· = '/')

structure IsStep (step : List Char) : Prop where
  single   : '/' ∉ step
  advances : step ≠ ['.'] ∧ step ≠ ['.', '.']

def IsLevel (path : List Char) : Prop :=
  ∀ step ∈ steps path, IsStep step

variable {path more step : List Char} {all : List (List Char)} {c : Char} {keep : Char → Bool}

theorem intercalate_steps (path : List Char) : ['/'].intercalate (steps path) = path :=
  List.intercalate_splitOn '/'

theorem steps_intercalate (h : ∀ step ∈ all, '/' ∉ step) (hn : all ≠ []) :
    steps (['/'].intercalate all) = all :=
  List.splitOn_intercalate '/' h hn

theorem slash_not_mem_of_mem_steps (h : step ∈ steps path) : '/' ∉ step := by
  induction path generalizing step with
  | nil =>
    cases List.mem_singleton.mp h
    simp
  | cons c path ih =>
    rw [steps, List.splitOnP_cons_eq_if_modifyHead] at h
    split at h
    case isTrue =>
      cases List.mem_cons.mp h with
      | inl h => simp [h]
      | inr h => exact ih h
    case isFalse hc =>
      have ⟨first, others, hs⟩ := List.exists_cons_of_ne_nil (List.splitOnP_ne_nil (· = '/') path)
      rw [hs] at h
      cases List.mem_cons.mp h with
      | inl h =>
        have hf : '/' ∉ first := ih (by simp [steps, hs])
        simpa [h, hf, eq_comm] using hc
      | inr h => exact ih (by simp [steps, hs, h])

theorem isLevel_of_all (h : (steps path).all (fun s => s ≠ ['.'] && s ≠ ['.', '.']) = true) : IsLevel path := by
  intro s hs
  have ha := List.all_eq_true.mp h s hs
  simp only [Bool.and_eq_true, decide_eq_true_eq] at ha
  exact ⟨slash_not_mem_of_mem_steps hs, ha⟩

theorem isLevel_nil : IsLevel [] := by
  intro s hs
  cases List.mem_singleton.mp hs
  exact ⟨by simp, by simp⟩

theorem isLevel_intercalate (h : ∀ step ∈ all, IsStep step) : IsLevel (['/'].intercalate all) := by
  by_cases hn : all = []
  case pos => exact hn ▸ isLevel_nil
  case neg =>
    rw [IsLevel, steps_intercalate (fun step hs => (h step hs).single) hn]
    exact h

theorem isStep_walk {taken : List (List Char)} (ht : ∀ s ∈ taken, IsStep s) (h : '/' ∉ step) :
    ∀ s ∈ walk taken step, IsStep s := by
  unfold walk
  split
  case isTrue => exact ht
  case isFalse hd =>
    split
    case isTrue =>
      split
      case isTrue => exact ht
      case isFalse => exact fun s hs => ht s (List.mem_of_mem_drop hs)
    case isFalse hu => exact List.forall_mem_cons.mpr ⟨⟨h, hd, hu⟩, ht⟩

theorem isStep_foldl_walk {taken : List (List Char)} (ht : ∀ s ∈ taken, IsStep s)
    (h : ∀ s ∈ all, '/' ∉ s) : ∀ s ∈ all.foldl walk taken, IsStep s := by
  induction all generalizing taken with
  | nil => exact ht
  | cons step all ih =>
    have ⟨hs, ha⟩ := List.forall_mem_cons.mp h
    exact ih (isStep_walk ht hs) ha

theorem straighten_eq : straighten path =
    if (steps path).contains ['.'] ∨ (steps path).contains ['.', '.'] then
      ['/'].intercalate ((steps path).foldl walk []).reverse
    else path :=
  rfl

theorem isLevel_straighten : IsLevel (straighten path) := by
  rw [straighten_eq]
  split
  case isTrue =>
    have hw : ∀ s ∈ (steps path).foldl walk [], IsStep s :=
      isStep_foldl_walk (by simp) fun s hs => slash_not_mem_of_mem_steps hs
    exact isLevel_intercalate fun s hs => hw s (List.mem_reverse.mp hs)
  case isFalse hd =>
    intro s hs
    refine ⟨slash_not_mem_of_mem_steps hs, ?_, ?_⟩
    case refine_1 => exact fun he => hd (.inl (List.contains_iff_mem.mpr (he ▸ hs)))
    case refine_2 => exact fun he => hd (.inr (List.contains_iff_mem.mpr (he ▸ hs)))

theorem straighten_of_isLevel (h : IsLevel path) : straighten path = path := by
  rw [straighten_eq]
  refine if_neg fun hd => ?_
  cases hd with
  | inl hd => exact (h _ (List.contains_iff_mem.mp hd)).advances.1 rfl
  | inr hd => exact (h _ (List.contains_iff_mem.mp hd)).advances.2 rfl

theorem isLevel_append_slash_iff : IsLevel (path ++ '/' :: more) ↔ IsLevel path ∧ IsLevel more := by
  have hs : steps (path ++ '/' :: more) = steps path ++ steps more :=
    List.splitOnP_append_cons _ _ (by decide)
  rw [IsLevel, hs, List.forall_mem_append]
  rfl

theorem isLevel_append (h : IsLevel path) (hl : path.getLast? = some '/') (hm : IsLevel more) :
    IsLevel (path ++ more) := by
  have ⟨start, hs⟩ := List.getLast?_eq_some_iff.mp hl
  have hstart := (isLevel_append_slash_iff.mp (hs ▸ h)).1
  rw [hs, List.append_assoc]
  exact isLevel_append_slash_iff.mpr ⟨hstart, hm⟩

theorem slash_not_mem_escapeChar (h : c ≠ '/') : '/' ∉ escapeChar keep c := by
  unfold escapeChar
  split
  case isTrue => simpa using h.symm
  case isFalse =>
    intro hm
    have ⟨b, _, hb⟩ := List.mem_flatMap.mp hm
    cases mem_escapeOctet hb with
    | inl hb => exact absurd hb (by decide)
    | inr hb => exact absurd hb (by decide)

theorem slash_not_mem_escape (h : '/' ∉ step) : '/' ∉ escape keep step := by
  intro hm
  have ⟨c, hc, hs⟩ := List.mem_flatMap.mp hm
  exact slash_not_mem_escapeChar (fun he => h (he ▸ hc)) hs

theorem escape_append : escape keep (path ++ more) = escape keep path ++ escape keep more :=
  List.flatMap_append

theorem escape_intercalate (hk : keep '/') :
    escape keep (['/'].intercalate all) = ['/'].intercalate (all.map (escape keep)) := by
  induction all with
  | nil => rfl
  | cons step all ih =>
    cases all with
    | nil => simp
    | cons next all =>
      have hm : escape keep ['/'] = ['/'] := escape_eq_self (by simpa using hk)
      rw [List.intercalate_cons_cons, escape_append, escape_append, hm, ih]
      simp

-- What is escaped shows by its percent signs.
theorem percent_mem_escapeChar (h : ¬keep c) : '%' ∈ escapeChar keep c := by
  rw [escapeChar, if_neg h]
  have hn : String.utf8EncodeChar c ≠ [] := by
    intro he
    have hl := String.length_utf8EncodeChar c
    rw [he] at hl
    exact absurd c.utf8Size_pos (by simp [← hl])
  obtain ⟨b, hb⟩ := List.exists_mem_of_ne_nil _ hn
  exact List.mem_flatMap.mpr ⟨b, hb, List.mem_cons_self⟩

theorem escape_eq_self_of_percent_not_mem (h : '%' ∉ escape keep step) : escape keep step = step := by
  refine escape_eq_self fun c hc => ?_
  by_contra hk
  exact h (List.mem_flatMap.mpr ⟨c, hc, percent_mem_escapeChar hk⟩)

theorem isStep_escape (h : IsStep step) : IsStep (escape keep step) := by
  have hs {dots : List Char} (hd : '%' ∉ dots) (he : escape keep step = dots) : step = dots :=
    (escape_eq_self_of_percent_not_mem (he ▸ hd)).symm.trans he
  exact ⟨slash_not_mem_escape h.single, mt (hs (by decide)) h.advances.1, mt (hs (by decide)) h.advances.2⟩

theorem isLevel_escape (hk : keep '/') (h : IsLevel path) : IsLevel (escape keep path) := by
  rw [← intercalate_steps path, escape_intercalate hk]
  exact isLevel_intercalate (List.forall_mem_map.mpr fun s hs => isStep_escape (h s hs))

end RelatedIssues.Url
