import RelatedIssues.Proofs.Text.Trim
import RelatedIssues.Request.Cursor

namespace RelatedIssues

namespace Text

-- Sets of characters that have none in common.
def Spans.disjoint (as bs : Spans) : Bool :=
  as.all fun a => bs.all fun b => a.2 < b.1 || b.2 < a.1

theorem Spans.not_contains_of_disjoint {as bs : Spans} {c : Char} (h : disjoint as bs)
    (ha : as.contains c) : ¬bs.contains c := by
  intro hb
  have ⟨a, hma, _, _⟩ := contains_iff.mp ha
  have ⟨b, hmb, _, _⟩ := contains_iff.mp hb
  have hd := List.all_eq_true.mp (List.all_eq_true.mp h a hma) b hmb
  simp only [Bool.or_eq_true, decide_eq_true_eq] at hd
  omega

theorem contains_of_isAlpha {c : Char} (h : c.isAlpha) : Spans.contains [(65, 90), (97, 122)] c := by
  rw [Spans.contains_iff]
  cases Bool.or_eq_true_iff.mp h with
  | inl hu => exact ⟨(65, 90), by simp, of_decide_eq_true hu⟩
  | inr hl =>
    obtain ⟨ha, hz⟩ := Bool.and_eq_true_iff.mp hl
    exact ⟨(97, 122), by simp, of_decide_eq_true ha, of_decide_eq_true hz⟩

theorem not_isBlank_of_isLetter {c : Char} (h : isLetter c) : ¬isBlank c := by
  unfold isLetter at h
  split at h
  case isTrue => exact Spans.not_contains_of_disjoint (by decide) (contains_of_isAlpha h)
  case isFalse => exact Spans.not_contains_of_disjoint (by decide +kernel) h

end Text

namespace Cursor

variable {c : Cursor} {s rest gap : List Char} {x y : Char}

theorem not_isBlank_of_isWordChar (h : isWordChar x) : ¬Text.isBlank x := by
  rcases Bool.or_eq_true_iff.mp h with hl | hd
  case inl => exact Text.not_isBlank_of_isLetter hl
  case inr =>
    rw [decide_eq_true_iff.mp hd]
    decide

theorem takeWord_of_split (hr : c.rest = s ++ rest) (hs : ∀ x ∈ s, isWordChar x)
    (hn : ∀ x ∈ rest.head?, ¬isWordChar x) : c.takeWord.1 = s ∧ c.takeWord.2.rest = rest := by
  rw [rest_takeWord, takeWord, hr]
  exact span_append hs hn

theorem rest_skipBlanks_of_split (hg : ∀ b ∈ gap, Text.isBlank b) (hx : ¬Text.isBlank x)
    (hr : c.rest = gap ++ x :: rest) : c.skipBlanks.rest = x :: rest := by
  rw [rest_skipBlanks, hr]
  exact (span_append hg (by simpa using hx)).2

theorem exists_gap_skipBlanks (c : Cursor) :
    ∃ gap, (∀ b ∈ gap, Text.isBlank b) ∧ c.rest = gap ++ c.skipBlanks.rest :=
  ⟨c.rest.takeWhile Text.isBlank, fun _ hb => List.mem_takeWhile_imp hb, by
    rw [rest_skipBlanks, List.takeWhile_append_dropWhile]⟩

theorem take_eq_true_iff (hx : ¬Text.isBlank x) :
    (∃ c', c.take [x] = (true, c') ∧ c'.rest = rest) ↔
      ∃ gap, (∀ b ∈ gap, Text.isBlank b) ∧ c.rest = gap ++ x :: rest := by
  constructor
  case mp =>
    intro ⟨c', ht, hr⟩
    unfold take at ht
    simp only at ht
    split at ht
    case isFalse => cases ht
    case isTrue hp =>
      cases ht
      have hs : c.skipBlanks.rest = x :: rest := by
        rw [peek] at hp
        have ha := List.take_append_drop 1 c.skipBlanks.rest
        rw [← ha, hp, ← rest_advance, hr, List.singleton_append]
      exact hs ▸ exists_gap_skipBlanks c
  case mpr =>
    intro ⟨gap, hg, hr⟩
    have hs := rest_skipBlanks_of_split hg hx hr
    refine ⟨c.skipBlanks.advance 1, ?_, by simp [hs]⟩
    rw [take]
    exact if_pos (by rw [peek, hs]; rfl)

-- A mark that is not there is not taken, but the blanks are.
theorem exists_gap_of_take {c' : Cursor} (h : c.take [x] = (false, c')) :
    ∃ gap, (∀ b ∈ gap, Text.isBlank b) ∧ c.rest = gap ++ c'.rest := by
  unfold take at h
  simp only at h
  split at h
  case isTrue => cases h
  case isFalse =>
    cases h
    exact exists_gap_skipBlanks c

theorem take_of_other (hg : ∀ b ∈ gap, Text.isBlank b) (hx : ¬Text.isBlank x) (hy : x ≠ y)
    (hr : c.rest = gap ++ x :: rest) : ∃ c', c.take [y] = (false, c') ∧ c'.rest = x :: rest := by
  have hs := rest_skipBlanks_of_split hg hx hr
  refine ⟨c.skipBlanks, ?_, hs⟩
  rw [take]
  exact if_neg (by rw [peek, hs]; simpa using hy)

theorem distance?_of_split (h : x ∉ s) : distance? [x] (s ++ x :: rest) = some s.length := by
  induction s with
  | nil => simp [distance?]
  | cons c s ih =>
    have ⟨hc, hs⟩ := List.ne_and_not_mem_of_not_mem_cons h
    simp [distance?, ih hs, hc]

theorem distance?_eq_none (h : x ∉ s) : distance? [x] s = none := by
  induction s with
  | nil => simp [distance?]
  | cons c s ih =>
    have ⟨hc, hs⟩ := List.ne_and_not_mem_of_not_mem_cons h
    simp [distance?, ih hs, hc]

theorem takeUntil_of_split (hr : c.rest = s ++ x :: rest) (hs : x ∉ s) :
    c.takeUntil [x] = (some s, c.advance (s.length + 1)) := by
  have hp : c.pos ≤ c.text.length := by
    refine Nat.le_of_not_lt fun hp => ?_
    simp [Cursor.rest, List.drop_of_length_le (Nat.le_of_lt hp)] at hr
  rw [takeUntil, if_pos hp, hr, distance?_of_split hs]
  simp

theorem takeUntil_eq_some_iff : (∃ c', c.takeUntil [x] = (some s, c') ∧ c'.rest = rest) ↔
    c.rest = s ++ x :: rest ∧ x ∉ s := by
  constructor
  case mp =>
    intro ⟨c', ht, hr⟩
    by_cases hx : x ∈ c.rest
    case pos =>
      have ⟨s', rest', hs, hn⟩ := List.eq_append_cons_of_mem hx
      rw [takeUntil_of_split hs hn] at ht
      cases ht
      rw [← hr, rest_advance, hs]
      simp [hn]
    case neg => simp [takeUntil, distance?_eq_none hx] at ht
  case mpr =>
    intro ⟨hr, hs⟩
    exact ⟨_, takeUntil_of_split hr hs, by simp [hr]⟩

end Cursor
end RelatedIssues
