import RelatedIssues.Clause.Reader
import RelatedIssues.Proofs.Distinct

namespace RelatedIssues.Clause

variable {c : Char} {rest : List Char}

theorem closing?_backslash (h : c ≠ '\n') :
    closing? ('\\' :: c :: rest) = (closing? rest).map fun r => (c :: r.1, r.2 + 2) := by
  simp [closing?, h]

theorem closing?_of_plain (hb : c ≠ '\\') (hq : c ≠ '\'') :
    closing? (c :: rest) = (closing? rest).map fun r => (c :: r.1, r.2 + 1) := by
  rw [closing?]
  all_goals simp [hb, hq]

-- A line feed is never escaped, so the one character that a backslash cannot stand for does not come up.
theorem closing?_escapeChar :
    closing? (escapeChar c ++ rest) =
      (closing? rest).map fun r => (c :: r.1, r.2 + (escapeChar c).length) := by
  unfold escapeChar
  split
  case isTrue h =>
    have hn : c ≠ '\n' := by rcases h with rfl | rfl <;> decide
    exact closing?_backslash hn
  case isFalse h =>
    have ⟨hb, hq⟩ := not_or.mp h
    exact closing?_of_plain hb hq

theorem closing?_escape {key : List Char} :
    closing? (escape key ++ '\'' :: rest) = some (key, (escape key).length + 1) := by
  induction key
  case nil => rfl
  case cons c key ih =>
    have he : escape (c :: key) = escapeChar c ++ escape key := List.flatMap_cons
    rw [he, List.append_assoc, closing?_escapeChar, ih]
    simp [Nat.add_comm, Nat.add_assoc]

theorem keysAfter_eq_drop {skip : Nat} {text : List Char} :
    keysAfter skip text = keysAfter 0 (text.drop skip) := by
  induction text generalizing skip
  case nil => simp [keysAfter]
  case cons c text ih =>
    cases skip
    case zero => rfl
    case succ skip => simp [keysAfter, ih]

-- Text without quotes is passed over.
theorem keysAfter_append {text : List Char} (h : '\'' ∉ text) :
    keysAfter 0 (text ++ rest) = keysAfter 0 rest := by
  induction text
  case nil => rfl
  case cons c text ih =>
    have ⟨hc, ht⟩ := List.ne_and_not_mem_of_not_mem_cons h
    simp [keysAfter, hc.symm, ih ht]

-- The reader is right behind a literal when it has read its key. Without this alignment a quote in a
-- key could open a literal of its own.
theorem keysAfter_literal {key : String} :
    keysAfter 0 (literal key ++ rest) = key.toList :: keysAfter 0 rest := by
  have hl : literal key ++ rest = '\'' :: (escape key.toList ++ '\'' :: rest) := by simp [literal]
  have hd : (escape key.toList ++ '\'' :: rest).drop ((escape key.toList).length + 1) = rest := by
    simp [List.drop_append]
  rw [hl, keysAfter, if_pos rfl, closing?_escape]
  simp only
  rw [keysAfter_eq_drop, hd]

theorem keysAfter_literals {keys : List String} :
    keysAfter 0 (literals keys ++ rest) = keys.map String.toList ++ keysAfter 0 rest := by
  induction keys
  case nil => rfl
  case cons key keys ih =>
    cases keys
    case nil => exact keysAfter_literal
    case cons key' keys =>
      rw [literals_cons_cons, List.append_assoc, List.append_assoc, keysAfter_literal,
        keysAfter_append (by decide), ih]
      rfl

theorem readKeys_text {c : Clause} : readKeys c.text = c.keys := by
  by_cases h : c.keys = []
  case pos =>
    rw [text_of_keys_eq_nil h, h]
    cases c.negated <;> decide
  case neg =>
    have hq := quote_not_mem_head c.negated
    rw [readKeys, toList_text h, List.append_assoc, keysAfter_append hq, keysAfter_literals]
    simp [keysAfter]

theorem readKeys_build {keys : List String} {negated : Bool} :
    readKeys (build keys negated) = keys.eraseDups :=
  readKeys_text

-- The tenth character of a text tells the four kinds of clauses apart: those with keys and those
-- without, negated or not.
theorem tenth_char_text {c : Clause} :
    c.text.toList[9]? = some
      (if c.keys = [] then if c.negated then '!' else '=' else if c.negated then 'n' else 'i') := by
  by_cases h : c.keys = []
  case pos =>
    rw [text_of_keys_eq_nil h, if_pos h]
    cases c.negated <;> decide
  case neg =>
    rw [toList_text h, if_neg h]
    cases c.negated <;> simp [operator]

theorem text_injective {c c' : Clause} (h : c.text = c'.text) : c = c' := by
  have hk : c.keys = c'.keys := by rw [← readKeys_text (c := c), h, readKeys_text]
  have ht := tenth_char_text (c := c)
  rw [h, tenth_char_text, hk] at ht
  have hn : c.negated = c'.negated := by
    by_cases he : c'.keys = [] <;> cases hc : c.negated <;> cases hc' : c'.negated <;>
      simp [he, hc, hc'] at ht ⊢
  cases c
  cases c'
  exact mk.injEq .. |>.mpr ⟨hn, hk⟩

theorem build_eraseDups {keys : List String} {negated : Bool} :
    build keys.eraseDups negated = build keys negated := by
  simp [build, ofKeys, Distinct.eraseDups_of_nodup (Distinct.nodup_eraseDups keys)]

theorem build_injective {keys keys' : List String} {negated negated' : Bool}
    (h : build keys negated = build keys' negated') :
    negated = negated' ∧ keys.eraseDups = keys'.eraseDups :=
  mk.injEq .. |>.mp (text_injective h)

-- The clause that every issue meets is for no keys, and these are excluded.
theorem build_eq_matchEverything_iff {keys : List String} {negated : Bool} :
    build keys negated = matchEverything ↔ negated = true ∧ keys = [] := by
  have he : matchEverything = build [] true := rfl
  constructor
  case mp =>
    intro h
    have ⟨hn, hk⟩ := build_injective (h.trans he)
    exact ⟨hn, Distinct.eraseDups_eq_nil.mp hk⟩
  case mpr => exact fun ⟨hn, hk⟩ => by rw [hn, hk, he]

-- The text of a clause is a faithful spelling of it: the keys are read back in their order, each once.
-- Hence what was read is spelled as before, and two texts are equal only if the clauses are.
theorem build_round_trip :
    (∀ keys negated, readKeys (build keys negated) = keys.eraseDups) ∧
    (∀ keys negated, build (readKeys (build keys negated)) negated = build keys negated) ∧
    (∀ keys keys' negated negated', build keys negated = build keys' negated' ↔
      negated = negated' ∧ keys.eraseDups = keys'.eraseDups) := by
  refine ⟨fun _ _ => readKeys_build, fun keys negated => ?rebuilt, fun keys keys' negated negated' => ?iff⟩
  case rebuilt =>
    rw [readKeys_build, build_eraseDups]
  case iff =>
    constructor
    case mp => exact build_injective
    case mpr =>
      intro ⟨hn, hk⟩
      rw [← build_eraseDups, hn, hk, build_eraseDups]

end RelatedIssues.Clause
