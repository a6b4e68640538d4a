import RelatedIssues.Proofs.Request.Parsing

namespace RelatedIssues

namespace LinkFilter

-- A hint asks for something, and has neither an arrow nor a bracket that closes in it.
structure IsHint (hint : List Char) : Prop where
  asks    : ¬∀ c ∈ hint, Text.isBlank c
  trimmed : Text.IsTrimmed Text.isBlank hint
  closed  : ']' ∉ hint
  plain   : ¬arrow <:+: hint

structure IsNormal (f : LinkFilter) : Prop where
  asks : f.hint ≠ none ∨ f.direction ≠ none
  hint : ∀ hint ∈ f.hint, IsHint hint.toList

variable {label : List Char} {f : Form} {l : LinkFilter}

theorem isHint_trim (hb : ¬∀ c ∈ label, Text.isBlank c) (hc : ']' ∉ label) (hn : ¬arrow <:+: label) :
    IsHint (Text.trim label) where
  asks h := by
    have ht : Text.trim (Text.trim label) = Text.trim label := Text.trimBy_eq_self_iff.mpr Text.isTrimmed_trimBy
    have hn : Text.trim (Text.trim label) = [] := Text.trimBy_eq_nil_iff.mpr h
    exact hb (Text.trimBy_eq_nil_iff.mp (ht.symm.trans hn))
  trimmed := Text.isTrimmed_trimBy
  closed h := hc ((Text.trimBy_sublist Text.isBlank label).subset h)
  plain h := hn (h.trans (Text.isInfix_trimBy Text.isBlank label))

theorem Form.Spells.isNormal (h : f.Spells l) (hc : ']' ∉ f.text) : l.IsNormal := by
  cases h with
  | labelled hn hb =>
    refine ⟨.inl nofun, fun hint hh => ?_⟩
    cases hh
    simpa using isHint_trim hb hc hn
  | @sided label side d hn hd =>
    refine ⟨.inr nofun, fun hint hh => ?_⟩
    have hc : ']' ∉ label := fun hm => hc (List.mem_append_left _ (List.mem_append_left _ hm))
    by_cases hb : label.all Text.isBlank
    case pos => simp [hb] at hh
    case neg =>
      simp only [hb] at hh
      cases hh
      simpa using isHint_trim (mt List.all_eq_true.mpr hb) hc hn

end LinkFilter

namespace Request

structure IsNormal (q : Request) : Prop where
  query    : Text.IsTrimmed Text.isBlank q.query.toList
  -- Nothing is asked for in one way only.
  silent   : q.query = "" → q.relation = .linked ∧ q.filter = none
  filtered : q.filter ≠ none → q.relation = .linked
  filter   : ∀ f ∈ q.filter, f.IsNormal

variable {f : Form} {q : Request}

theorem Form.Spells.query_ne_empty (h : f.Spells q) : q.query ≠ "" :=
  trimmed?_ne_empty (trimmed?_eq_some_iff.mpr ⟨h.asks, h.query⟩)

theorem Form.Spells.isNormal (h : f.Spells q) : q.IsNormal where
  query := by simpa [h.query] using Text.isTrimmed_trimBy
  silent hq := absurd hq h.query_ne_empty
  filtered hn := by
    have ⟨l, _, hl⟩ := h.filter
    by_contra hr
    exact hn (hl.trans (if_neg hr))
  filter l hl := by
    have ⟨l', hx, he⟩ := h.filter
    rw [he, Option.mem_def, Option.ite_none_right_eq_some] at hl
    obtain ⟨_, rfl⟩ := hl
    generalize f.filter = x at hx
    cases hx with
    | within hs hc _ => exact hs.isNormal hc

-- The query stands at the end of the text.
theorem Form.Spells.query_suffix (h : f.Spells q) (ht : ∀ c ∈ f.text.getLast?, ¬Text.isBlank c) :
    q.query.toList <:+ f.text := by
  have ⟨before, hr⟩ : f.rest <:+ f.text :=
    ⟨f.word ++ (f.gap ++ (bracket f.filter ++ [':'])), by simp [text]⟩
  have hl : ∀ c ∈ f.rest.getLast?, ¬Text.isBlank c := fun c hc =>
    ht c (hr ▸ List.mem_getLast?_append_of_mem_getLast? hc)
  rw [h.query, String.toList_ofList]
  exact (Text.trimBy_suffix hl).trans ⟨before, hr⟩

-- A text is blank, or it is read as its form says, or it has no form and is a query.
theorem parse_cases (text : String) :
    (Text.trim text.toList = [] ∧ parse text = {}) ∨
    (∃ f : Form, f.text = Text.trim text.toList ∧ f.Spells (parse text)) ∨
    (Text.trim text.toList ≠ [] ∧ parse text = { query := .ofList (Text.trim text.toList) }) := by
  rw [parse]
  split
  case isTrue ht => exact .inl ⟨ht, rfl⟩
  case isFalse ht =>
    cases ho : ofPrefixed? (Text.trim text.toList) with
    | none => exact .inr (.inr ⟨ht, rfl⟩)
    | some q => exact .inr (.inl (ofPrefixed?_eq_some_iff.mp ho))

theorem isNormal_parse (text : String) : (parse text).IsNormal := by
  obtain ⟨_, hp⟩ | ⟨f, _, hs⟩ | ⟨ht, hp⟩ := parse_cases text
  case inl =>
    rw [hp]
    exact ⟨by decide, fun _ => ⟨rfl, rfl⟩, fun _ => rfl, nofun⟩
  case inr.inl => exact hs.isNormal
  case inr.inr =>
    rw [hp]
    refine ⟨by simpa using Text.isTrimmed_trimBy, fun hq => absurd hq ?_, fun _ => rfl, nofun⟩
    simpa using ht

theorem query_parse_suffix (text : String) : (parse text).query.toList <:+ Text.trim text.toList := by
  obtain ⟨_, hp⟩ | ⟨f, ht, hs⟩ | ⟨_, hp⟩ := parse_cases text
  case inl => simp [hp]
  case inr.inl => exact ht ▸ hs.query_suffix (ht ▸ Text.isTrimmed_trimBy.stop)
  case inr.inr => simp [hp]

end Request
end RelatedIssues
