import Mathlib.Data.List.DropRight
import Mathlib.Data.List.TakeWhile
import RelatedIssues.Text.Blank

namespace RelatedIssues

-- A text is split at the first character that is not of some kind in one way only.
theorem span_append {p : Char → Bool} {s rest : List Char} (hs : ∀ c ∈ s, p c)
    (hr : ∀ c ∈ rest.head?, ¬p c) :
    (s ++ rest).takeWhile p = s ∧ (s ++ rest).dropWhile p = rest := by
  rw [List.takeWhile_append_of_pos hs, List.dropWhile_append_of_pos hs]
  cases rest with
  | nil => simp
  | cons c rest => simp [hr c rfl]

theorem span_inj {p : Char → Bool} {s s' rest rest' : List Char} (hs : ∀ c ∈ s, p c)
    (hr : ∀ c ∈ rest.head?, ¬p c) (hs' : ∀ c ∈ s', p c) (hr' : ∀ c ∈ rest'.head?, ¬p c)
    (h : s ++ rest = s' ++ rest') : s = s' ∧ rest = rest' := by
  have ⟨ht, hd⟩ := span_append hs hr
  have ⟨ht', hd'⟩ := span_append hs' hr'
  rw [h] at ht hd
  exact ⟨ht.symm.trans ht', hd.symm.trans hd'⟩

namespace Text

variable {p q : Char → Bool} {s m t rest before behind : List Char} {c : Char}

-- A text that does not start or end with a character of some kind.
structure IsTrimmed (p : Char → Bool) (s : List Char) : Prop where
  start : ∀ c ∈ s.head?, ¬p c
  stop  : ∀ c ∈ s.getLast?, ¬p c

theorem IsTrimmed.mono (h : IsTrimmed p s) (hq : ∀ c, q c → p c) : IsTrimmed q s where
  start c hc hqc := h.start c hc (hq c hqc)
  stop c hc hqc := h.stop c hc (hq c hqc)

theorem IsTrimmed.eq_nil_of_forall_before (h : IsTrimmed p (before ++ s)) (hb : ∀ c ∈ before, p c) :
    before = [] := by
  cases before with
  | nil => rfl
  | cons c before => exact absurd (hb c List.mem_cons_self) (h.start c rfl)

theorem isTrimmed_or : IsTrimmed (fun c => p c || q c) s ↔ IsTrimmed p s ∧ IsTrimmed q s := by
  constructor
  case mp => exact fun h => ⟨h.mono fun c hc => by simp [hc], h.mono fun c hc => by simp [hc]⟩
  case mpr =>
    intro ⟨hp, hq⟩
    refine ⟨fun c hc hpq => ?_, fun c hc hpq => ?_⟩
    case refine_1 => exact (Bool.or_eq_true_iff.mp hpq).elim (hp.start c hc) (hq.start c hc)
    case refine_2 => exact (Bool.or_eq_true_iff.mp hpq).elim (hp.stop c hc) (hq.stop c hc)

theorem trimEndBy_append (hm : ∀ c ∈ m.getLast?, ¬p c) (hb : ∀ c ∈ behind, p c) :
    trimEndBy p (m ++ behind) = m := by
  have hs : (behind.reverse ++ m.reverse).dropWhile p = m.reverse :=
    (span_append (by simpa using hb) (by simpa using hm)).2
  rw [trimEndBy, List.reverse_append, hs, List.reverse_reverse]

theorem exists_split_end (p : Char → Bool) (s : List Char) :
    ∃ behind, s = trimEndBy p s ++ behind ∧ (∀ c ∈ behind, p c) ∧
      ∀ c ∈ (trimEndBy p s).getLast?, ¬p c := by
  refine ⟨s.rtakeWhile p, List.rdropWhile_append_rtakeWhile.symm, ?_, ?_⟩
  case refine_1 => exact fun c hc => List.mem_rtakeWhile_imp hc
  case refine_2 =>
    intro c hc
    have ⟨hn, hl⟩ := List.mem_getLast?_eq_getLast hc
    exact hl ▸ List.rdropWhile_last_not p s hn

theorem trimBy_eq_nil_iff : trimBy p s = [] ↔ ∀ c ∈ s, p c := by
  have h : trimBy p s = (s.dropWhile p).rdropWhile p := rfl
  rw [h, List.rdropWhile_eq_nil_iff, ← List.dropWhile_eq_nil_iff, List.dropWhile_idempotent,
    List.dropWhile_eq_nil_iff]

theorem IsTrimmed.trimBy_append (h : IsTrimmed p m) (ha : ∀ c ∈ before, p c)
    (hb : ∀ c ∈ behind, p c) : trimBy p (before ++ (m ++ behind)) = m := by
  cases m with
  | nil => exact trimBy_eq_nil_iff.mpr (List.forall_mem_append.mpr ⟨ha, hb⟩)
  | cons c m =>
    have hd : (before ++ (c :: m ++ behind)).dropWhile p = c :: m ++ behind :=
      (span_append ha (by simpa using h.start)).2
    rw [trimBy, hd, trimEndBy_append h.stop hb]

theorem exists_split (p : Char → Bool) (s : List Char) :
    ∃ before behind, s = before ++ (trimBy p s ++ behind) ∧ (∀ c ∈ before, p c) ∧
      (∀ c ∈ behind, p c) ∧ IsTrimmed p (trimBy p s) := by
  have ⟨behind, hs, hb, hl⟩ := exists_split_end p (s.dropWhile p)
  refine ⟨s.takeWhile p, behind, ?_, fun c hc => List.mem_takeWhile_imp hc, hb, ?_, hl⟩
  case refine_1 => rw [trimBy, ← hs, List.takeWhile_append_dropWhile]
  case refine_2 =>
    intro c hc
    have hd : c ∈ (s.dropWhile p).head? := hs ▸ List.mem_head?_append_of_mem_head? hc
    have hn := List.head?_dropWhile_not p s
    rw [Option.mem_def.mp hd] at hn
    simpa using hn

theorem isTrimmed_trimBy : IsTrimmed p (trimBy p s) :=
  have ⟨_, _, _, _, _, h⟩ := exists_split p s
  h

theorem trimBy_eq_iff : trimBy p s = m ↔ ∃ before behind, s = before ++ (m ++ behind) ∧
    (∀ c ∈ before, p c) ∧ (∀ c ∈ behind, p c) ∧ IsTrimmed p m := by
  constructor
  case mp => exact fun h => h ▸ exists_split p s
  case mpr =>
    intro ⟨_, _, hs, ha, hb, hm⟩
    exact hs ▸ hm.trimBy_append ha hb

theorem trimBy_eq_self_iff : trimBy p s = s ↔ IsTrimmed p s := by
  rw [trimBy_eq_iff]
  constructor
  case mp => exact fun ⟨_, _, _, _, _, h⟩ => h
  case mpr => exact fun h => ⟨[], [], by simp, nofun, nofun, h⟩

instance : Decidable (IsTrimmed p s) :=
  decidable_of_iff _ trimBy_eq_self_iff

theorem trimBy_of_forall_not (h : ∀ c ∈ s, ¬p c) : trimBy p s = s :=
  trimBy_eq_self_iff.mpr
    ⟨fun c hc => h c (List.mem_of_mem_head? hc), fun c hc => h c (List.mem_of_mem_getLast? hc)⟩

theorem trimBy_trimEndBy : trimBy p (trimEndBy p s) = trimBy p s := by
  have ⟨behind, hs, hb, _⟩ := exists_split_end p s
  have ⟨before, behind', ht, ha, hb', hm⟩ := exists_split p (trimEndBy p s)
  refine (trimBy_eq_iff.mpr ⟨before, behind' ++ behind, ?_, ha, ?_, hm⟩).symm
  case refine_1 =>
    rw [← List.append_assoc, ← List.append_assoc, List.append_assoc before, ← ht, ← hs]
  case refine_2 => exact List.forall_mem_append.mpr ⟨hb', hb⟩

-- A character that stays keeps everything before it.
theorem trimBy_append_cons (hs : ∀ c ∈ s.head?, ¬p c) (hc : ¬p c) :
    trimBy p (s ++ c :: rest) = s ++ c :: trimEndBy p rest := by
  have ⟨behind, hr, hb, hl⟩ := exists_split_end p rest
  have hd : (s ++ c :: rest).dropWhile p = s ++ c :: rest := by
    cases s with
    | nil => exact List.dropWhile_cons_of_neg hc
    | cons x s => exact List.dropWhile_cons_of_neg (hs x rfl)
  have he : ∀ x ∈ (s ++ c :: trimEndBy p rest).getLast?, ¬p x := by
    rw [List.getLast?_append_of_ne_nil _ (List.cons_ne_nil c _), List.getLast?_cons]
    cases hx : (trimEndBy p rest).getLast? with
    | none => simpa using hc
    | some x => simpa using hl x hx
  calc
    trimBy p (s ++ c :: rest) = trimEndBy p (s ++ c :: trimEndBy p rest ++ behind) := by
      rw [trimBy, hd, List.append_assoc, List.cons_append, ← hr]
    _ = s ++ c :: trimEndBy p rest := trimEndBy_append he hb

theorem isInfix_trimBy (p : Char → Bool) (s : List Char) : trimBy p s <:+: s := by
  have ⟨before, behind, hs, _⟩ := exists_split p s
  exact ⟨before, behind, by rw [List.append_assoc, ← hs]⟩

theorem trimBy_sublist (p : Char → Bool) (s : List Char) : (trimBy p s).Sublist s :=
  (isInfix_trimBy p s).sublist

-- Nothing is taken from an end where a character stays.
theorem trimBy_suffix (h : ∀ c ∈ s.getLast?, ¬p c) : trimBy p s <:+ s := by
  have hl : ∀ c ∈ (s.dropWhile p).getLast?, ¬p c := fun c hc => h c (by
    rw [← List.takeWhile_append_dropWhile (p := p) (l := s)]
    exact List.mem_getLast?_append_of_mem_getLast? hc)
  have ht : trimBy p s = s.dropWhile p := by
    have he : trimEndBy p (s.dropWhile p ++ []) = s.dropWhile p := trimEndBy_append hl nofun
    rwa [List.append_nil] at he
  exact ht ▸ List.dropWhile_suffix p

theorem infix_of_infix_append (ht : ∀ c ∈ t.head?, ¬p c) (hb : ∀ c ∈ before, p c)
    (h : t <:+: before ++ s) : t <:+: s := by
  induction before with
  | nil => exact h
  | cons b before ih =>
    have ⟨hp, hr⟩ := List.forall_mem_cons.mp hb
    rcases List.infix_cons_iff.mp h with hi | hi
    case inr => exact ih hr hi
    case inl =>
      cases t with
      | nil => exact List.nil_infix
      | cons c t =>
        cases (List.cons_prefix_cons.mp hi).1
        exact absurd hp (ht b rfl)

-- No part of a trimmed text stands among the characters that are left out around another text.
theorem IsTrimmed.infix_of_append (ht : IsTrimmed p t) (ha : ∀ c ∈ before, p c)
    (hb : ∀ c ∈ behind, p c) (h : t <:+: before ++ (m ++ behind)) : t <:+: m := by
  have hm := List.reverse_infix.mpr (infix_of_infix_append ht.start ha h)
  rw [List.reverse_append] at hm
  refine List.reverse_infix.mp (infix_of_infix_append (p := p) ?_ ?_ hm)
  case refine_1 => simpa using ht.stop
  case refine_2 => simpa using hb

theorem eq_of_trimBy_eq (ht : t.Sublist s) (h : trimBy p t = s) : t = s :=
  ht.antisymm (h ▸ trimBy_sublist p t)

end Text
end RelatedIssues
