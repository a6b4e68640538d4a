import Mathlib.Data.Finset.Card

namespace RelatedIssues.Distinct

variable {α : Type} [DecidableEq α] {l : List α}

-- The induction is on the length, since what follows an entry is read without the copies of it.
theorem nodup_eraseDups (l : List α) : l.eraseDups.Nodup := by
  induction h : l.length using Nat.strong_induction_on generalizing l
  case _ n ih =>
    cases l
    case nil => simp
    case cons a as =>
      have hf := List.length_filter_le (!· == a) as
      have hn := ih (as.filter (!· == a)).length (by rw [← h, List.length_cons]; omega) _ rfl
      rw [List.eraseDups_cons, List.nodup_cons]
      exact ⟨by simp [List.mem_eraseDups], hn⟩

theorem eraseDups_of_nodup (h : l.Nodup) : l.eraseDups = l := by
  induction l
  case nil => simp
  case cons a as ih =>
    have ⟨ha, has⟩ := List.nodup_cons.mp h
    have hf : as.filter (!· == a) = as := List.filter_eq_self.mpr fun b hb => by
      simp only [Bool.not_eq_true', beq_eq_false_iff_ne]
      exact fun he => ha (he ▸ hb)
    rw [List.eraseDups_cons, hf, ih has]

-- What comes later in a list moves nothing that stands before it.
theorem eraseDups_prefix {l' : List α} (h : l <+: l') : l.eraseDups <+: l'.eraseDups := by
  have ⟨rest, he⟩ := h
  rw [← he, List.eraseDups_append]
  exact List.prefix_append ..

theorem eraseDups_eq_nil : l.eraseDups = [] ↔ l = [] := by
  cases l <;> simp [List.eraseDups_cons]

-- The induction takes the last entry away, since it is the first of equal ones that stays.
theorem eraseDups_filter (p : α → Bool) (l : List α) :
    (l.filter p).eraseDups = l.eraseDups.filter p := by
  induction l using List.reverseRecOn with
  | nil => rfl
  | append_singleton l a ih =>
    have ha : (([a].filter p).removeAll (l.filter p)).eraseDups =
        ([a].removeAll l).eraseDups.filter p := by
      by_cases hp : p a <;> by_cases hm : a ∈ l <;> simp [List.removeAll, hp, hm, List.eraseDups_cons]
    rw [List.filter_append, List.eraseDups_append, ih, ha, List.eraseDups_append, List.filter_append]

-- The entries of a second list come behind those of the first one, as far as they are new.
theorem eraseDups_append (l l' : List α) :
    (l ++ l').eraseDups = l.eraseDups ++ l'.eraseDups.filter (· ∉ l.eraseDups) := by
  have hf : l'.removeAll l = l'.filter (· ∉ l.eraseDups) :=
    List.filter_congr fun a _ => by simp
  rw [List.eraseDups_append, hf, eraseDups_filter]

-- There are as many entries left as there are different ones.
theorem length_eraseDups (l : List α) : l.eraseDups.length = l.toFinset.card := by
  have h : l.toFinset = l.eraseDups.toFinset := by ext a; simp
  rw [h, List.toFinset_card_of_nodup (nodup_eraseDups l)]

end RelatedIssues.Distinct
