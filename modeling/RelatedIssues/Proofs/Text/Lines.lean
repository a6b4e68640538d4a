import Mathlib.Data.List.Basic
import RelatedIssues.Text.Lines

namespace RelatedIssues.Text

variable {c : Char} {s rest line : List Char}

def HasNoBreak (line : List Char) : Prop :=
  ∀ c ∈ line, ¬isLineBreak c

instance : Decidable (HasNoBreak line) :=
  decidable_of_iff (line.all fun c => !isLineBreak c) (by simp [HasNoBreak])

theorem HasNoBreak.sublist (h : HasNoBreak line) (hs : s.Sublist line) : HasNoBreak s :=
  fun c hc => h c (hs.subset hc)

theorem lines_cons (h : ¬isLineBreak c) : lines (c :: s) = extendLine c (lines s) := by
  have hr : c ≠ '\r' := by
    rintro rfl
    exact h (by decide)
  rw [lines, if_neg h]
  exact fun _ hc _ => hr hc

theorem lines_cons_of_break (hb : isLineBreak c) (hr : ∀ rest, c = '\r' → s ≠ '\n' :: rest) :
    lines (c :: s) = [] :: lines s := by
  rw [lines, if_pos hb]
  exact hr

theorem lines_append_break (h : HasNoBreak line) : lines (line ++ '\n' :: rest) = line :: lines rest := by
  induction line with
  | nil => rfl
  | cons c line ih =>
    have ⟨hc, hl⟩ := List.forall_mem_cons.mp h
    rw [List.cons_append, lines_cons hc, ih hl, extendLine]

theorem lines_of_ended {ls : List (List Char)} (h : ∀ line ∈ ls, HasNoBreak line) :
    lines (ls.flatMap (· ++ ['\n'])) = ls := by
  induction ls with
  | nil => rfl
  | cons line ls ih =>
    have ⟨hl, hs⟩ := List.forall_mem_cons.mp h
    rw [List.flatMap_cons, List.append_assoc, List.singleton_append, lines_append_break hl, ih hs]

theorem extendLine_ne_nil {ls : List (List Char)} : extendLine c ls ≠ [] := by
  cases ls <;> simp [extendLine]

theorem extendLine_append {ls ls' : List (List Char)} (h : ls ≠ []) :
    extendLine c (ls ++ ls') = extendLine c ls ++ ls' := by
  cases ls with
  | nil => exact absurd rfl h
  | cons => rfl

theorem lines_ne_nil (h : s ≠ []) : lines s ≠ [] := by
  induction s using lines.induct with
  | case1 => exact absurd rfl h
  | case2 => simp [lines]
  | case3 c s hr hb => simp [lines_cons_of_break hb hr]
  | case4 c s hr hb => simp [lines_cons hb, extendLine_ne_nil]

-- The line feed between two texts ends the last line of the first one, or makes an empty line if that line has its
-- break already. A carriage return at the end of the first text is one break with the line feed.
theorem exists_lines_append (s rest : List Char) : ∃ gap, (∀ line ∈ gap, line = []) ∧
    lines (s ++ '\n' :: rest) = lines s ++ (gap ++ lines rest) := by
  induction s using lines.induct with
  | case1 => exact ⟨[[]], by simp, rfl⟩
  | case2 s ih =>
    have ⟨gap, hg, hl⟩ := ih
    exact ⟨gap, hg, by simp [lines, hl]⟩
  | case3 c s hr hb ih =>
    by_cases hc : c = '\r' ∧ s = []
    case pos =>
      obtain ⟨rfl, rfl⟩ := hc
      exact ⟨[], nofun, rfl⟩
    case neg =>
      have ⟨gap, hg, hl⟩ := ih
      have hr' : ∀ t, c = '\r' → s ++ '\n' :: rest ≠ '\n' :: t := fun t hcr he => by
        cases s with
        | nil => exact hc ⟨hcr, rfl⟩
        | cons d s => exact hr s hcr (by simp [(List.cons.inj he).1])
      exact ⟨gap, hg, by simp [lines_cons_of_break hb hr, lines_cons_of_break hb hr', hl]⟩
  | case4 c s hr hb ih =>
    rw [List.cons_append, lines_cons hb, lines_cons hb]
    cases s with
    | nil => exact ⟨[], nofun, rfl⟩
    | cons d s =>
      have ⟨gap, hg, hl⟩ := ih
      exact ⟨gap, hg, by rw [hl, extendLine_append (lines_ne_nil (List.cons_ne_nil d s))]⟩

theorem hasNoBreak_of_mem_extendLine {ls : List (List Char)} (hc : ¬isLineBreak c)
    (h : ∀ line ∈ ls, HasNoBreak line) (hl : line ∈ extendLine c ls) : HasNoBreak line := by
  cases ls with
  | nil =>
    rw [List.mem_singleton.mp hl]
    exact List.forall_mem_singleton.mpr hc
  | cons first ls =>
    have ⟨hf, hs⟩ := List.forall_mem_cons.mp h
    cases hl with
    | head => exact List.forall_mem_cons.mpr ⟨hc, hf⟩
    | tail _ hl => exact hs line hl

theorem hasNoBreak_of_mem_lines (h : line ∈ lines s) : HasNoBreak line := by
  induction s using lines.induct generalizing line with
  | case1 => cases h
  | case2 rest ih =>
    cases h with
    | head => nofun
    | tail _ h => exact ih h
  | case3 c rest hr hb ih =>
    rw [lines_cons_of_break hb hr] at h
    cases h with
    | head => nofun
    | tail _ h => exact ih h
  | case4 c rest hr hb ih =>
    rw [lines_cons hb] at h
    exact hasNoBreak_of_mem_extendLine hb (fun _ => ih) h

end RelatedIssues.Text
