import RelatedIssues.Proofs.Request.Normal

namespace RelatedIssues

-- Any number of blanks.
abbrev Text.Gap := { s : List Char // ∀ c ∈ s, isBlank c }

namespace LinkFilter

-- The filter between its brackets. What it does not have is not written.
def print (f : LinkFilter) : String :=
  "[" ++ f.hint.getD "" ++ f.direction.elim "" ("->" ++ ·.word) ++ "]"

end LinkFilter

namespace Request

-- A request that asks for nothing is written as nothing.
def print (q : Request) : String :=
  if q.query = "" then "" else q.relation.word ++ q.filter.elim "" (·.print) ++ ": " ++ q.query

-- The blanks at the start of a text and behind each part of it.
structure Spacing where
  start     : Text.Gap
  word      : Text.Gap
  opened    : Text.Gap
  hint      : Text.Gap
  arrow     : Text.Gap
  direction : Text.Gap
  closed    : Text.Gap
  colon     : Text.Gap
  query     : Text.Gap

end Request

def LinkFilter.form (g : Request.Spacing) (f : LinkFilter) : Form :=
  let label := g.opened.val ++ ((f.hint.getD "").toList ++ g.hint.val)
  match f.direction with
  | none => .labelled label
  | some d => .sided label (g.arrow.val ++ (d.word.toList ++ g.direction.val))

namespace Request

def form (g : Spacing) (q : Request) : Form where
  word   := q.relation.word.toList
  gap    := g.word.val
  filter := q.filter.map fun f => (f.form g, g.closed.val)
  rest   := g.colon.val ++ q.query.toList

-- The request with blanks around its parts.
def spaced (g : Spacing) (q : Request) : String :=
  .ofList (g.start.val ++ ((if q.query = "" then [] else (q.form g).text) ++ g.query.val))

-- A single blank behind the colon.
def Spacing.plain : Spacing where
  start     := ⟨[], nofun⟩
  word      := ⟨[], nofun⟩
  opened    := ⟨[], nofun⟩
  hint      := ⟨[], nofun⟩
  arrow     := ⟨[], nofun⟩
  direction := ⟨[], nofun⟩
  closed    := ⟨[], nofun⟩
  colon     := ⟨[' '], List.forall_mem_singleton.mpr (by decide)⟩
  query     := ⟨[], nofun⟩

end Request

namespace Text

variable {m : List Char} (a b : Gap)

theorem trim_between (h : IsTrimmed isBlank m) : trim (a.val ++ (m ++ b.val)) = m :=
  h.trimBy_append a.property b.property

theorem not_mem_gap {c : Char} (h : ¬isBlank c) : c ∉ a.val :=
  fun hc => h (a.property c hc)

end Text

section

variable {g : Request.Spacing}

theorem Direction.lower_trim_word (d : Direction) (a b : Text.Gap) :
    Text.lower (Text.trim (a.val ++ (d.word.toList ++ b.val))) = d.word.toList := by
  rw [Text.trim_between a b (by cases d <;> decide)]
  cases d <;> decide +kernel

theorem Relation.word_ne_nil (r : Relation) : r.word.toList ≠ [] := by
  cases r <;> decide

theorem Relation.word_mem_words (r : Relation) : String.ofList (Text.lower r.word.toList) ∈ r.words := by
  cases r <;> decide +kernel

theorem Relation.isWordChar_word (r : Relation) : ∀ c ∈ r.word.toList, Cursor.isWordChar c := by
  rw [← List.all_eq_true]
  cases r <;> decide +kernel

namespace LinkFilter

variable {f : LinkFilter} {m : List Char}

theorem not_arrow_between (a b : Text.Gap) (h : ¬arrow <:+: m) : ¬arrow <:+: a.val ++ (m ++ b.val) := by
  have ha : Text.IsTrimmed Text.isBlank arrow := by decide
  exact fun hi => h (ha.infix_of_append a.property b.property hi)

-- A hint that ends in a dash keeps it, since the dash and the arrow behind it make no arrow before that one.
theorem spells_form (h : f.IsNormal) : (f.form g).Spells f := by
  obtain ⟨hint, direction⟩ := f
  cases hint with
  | none =>
    have hn : ¬arrow <:+: g.opened.val ++ ([] ++ g.hint.val) := not_arrow_between _ _ (by decide)
    have hb : (g.opened.val ++ ([] ++ g.hint.val)).all Text.isBlank :=
      List.all_eq_true.mpr (List.forall_mem_append.mpr ⟨g.opened.property, g.hint.property⟩)
    cases direction with
    | none => exact absurd h.asks (by simp)
    | some d =>
      have hs := Form.Spells.sided hn (d.lower_trim_word g.arrow g.direction)
      rwa [if_pos hb] at hs
  | some hint =>
    have hh := h.hint hint rfl
    have hn := not_arrow_between g.opened g.hint hh.plain
    have ht := Text.trim_between g.opened g.hint hh.trimmed
    have hb : ¬∀ c ∈ g.opened.val ++ (hint.toList ++ g.hint.val), Text.isBlank c :=
      fun hb => hh.asks fun c hc => hb c (by simp [hc])
    cases direction with
    | none =>
      have hs := Form.Spells.labelled hn hb
      rwa [ht, String.ofList_toList] at hs
    | some d =>
      have hs := Form.Spells.sided hn (d.lower_trim_word g.arrow g.direction)
      rwa [if_neg (mt List.all_eq_true.mp hb), ht, String.ofList_toList] at hs

theorem bracket_not_mem_form (h : f.IsNormal) : ']' ∉ (f.form g).text := by
  have hh : ']' ∉ (f.hint.getD "").toList := by
    cases hf : f.hint with
    | none => simp
    | some hint => exact (h.hint hint hf).closed
  have hg (a : Text.Gap) : ']' ∉ a.val := Text.not_mem_gap a (by decide)
  have hw (d : Direction) : ']' ∉ d.word.toList := by cases d <;> decide
  cases hd : f.direction <;> simp [form, hd, Form.text, arrow, hh, hg, hw]

theorem toList_print : f.print.toList = '[' :: ((f.form .plain).text ++ [']']) := by
  cases h : f.direction <;> simp [print, form, Form.text, arrow, Request.Spacing.plain, h]

end LinkFilter

namespace Request

variable {q : Request}

theorem trim_rest_form (h : q.IsNormal) : Text.trim (q.form g).rest = q.query.toList := by
  have ht := Text.trim_between g.colon ⟨[], nofun⟩ h.query
  rwa [List.append_nil] at ht

theorem spellsFilter_form (h : q.IsNormal) : Form.SpellsFilter (q.form g).filter q.filter := by
  rw [form]
  cases hf : q.filter with
  | none => exact .without
  | some f =>
    have hn := h.filter f hf
    exact .within (LinkFilter.spells_form hn) (LinkFilter.bracket_not_mem_form hn) g.closed.property

theorem spells_form (h : q.IsNormal) (hq : q.query ≠ "") : (q.form g).Spells q where
  letters c hc := by simpa [Cursor.isWordChar] using q.relation.isWordChar_word c hc
  relation := q.relation.word_mem_words
  blanks := g.word.property
  filter := by
    refine ⟨q.filter, spellsFilter_form h, ?_⟩
    split
    case isTrue => rfl
    case isFalse hr => exact Classical.not_not.mp (mt h.filtered hr)
  asks hb := by
    have ht : Text.trim (q.form g).rest = [] := Text.trimBy_eq_nil_iff.mpr hb
    rw [trim_rest_form h] at ht
    exact hq (by simpa using ht)
  query := by rw [trim_rest_form h, String.ofList_toList]

theorem isTrimmed_form (h : q.IsNormal) (hq : q.query ≠ "") :
    Text.IsTrimmed Text.isBlank (q.form g).text where
  start c hc := by
    have hw : (q.form g).word = q.relation.word.toList := rfl
    rw [Form.text, hw, List.head?_append_of_ne_nil _ q.relation.word_ne_nil] at hc
    exact Cursor.not_isBlank_of_isWordChar (q.relation.isWordChar_word c (List.mem_of_mem_head? hc))
  stop c hc := by
    have hn : q.query.toList ≠ [] := by simpa using hq
    obtain ⟨s, hs⟩ : q.query.toList <:+ (q.form g).text :=
      ⟨(q.form g).word ++ (g.word.val ++ (Form.bracket (q.form g).filter ++ ':' :: g.colon.val)), by
        simp [Form.text, form]⟩
    rw [← hs, List.getLast?_append_of_ne_nil _ hn] at hc
    exact h.query.stop c hc

theorem print_eq (q : Request) : q.print = q.spaced .plain := by
  rw [print, spaced]
  split
  case isTrue => rfl
  case isFalse =>
    refine String.toList_inj.mp ?_
    cases h : q.filter <;>
      simp [h, form, Form.text, Form.bracket, Spacing.plain, LinkFilter.toList_print]

theorem IsNormal.eq_default (h : q.IsNormal) (hq : q.query = "") : q = {} := by
  have ⟨hr, hf⟩ := h.silent hq
  cases q
  simp_all

theorem ofArgument_spaced (h : q.IsNormal) (g : Spacing) : ofArgument (some (q.spaced g)) = q := by
  by_cases hq : q.query = ""
  case pos =>
    have hb : ∀ c ∈ (q.spaced g).toList, Text.isBlank c := by
      rw [spaced, if_pos hq, String.toList_ofList, List.nil_append]
      exact List.forall_mem_append.mpr ⟨g.start.property, g.query.property⟩
    exact (parse_of_blank hb).trans (h.eq_default hq).symm
  case neg =>
    have ht : Text.trim (q.spaced g).toList = (q.form g).text := by
      rw [spaced, if_neg hq, String.toList_ofList]
      exact Text.trim_between g.start g.query (isTrimmed_form h hq)
    have hn : (q.form g).text ≠ [] := List.append_ne_nil_of_left_ne_nil q.relation.word_ne_nil _
    have hp := ofPrefixed?_eq_some_iff.mpr ⟨q.form g, rfl, spells_form h hq⟩
    rw [ofArgument, Option.getD_some, parse, ht, if_neg hn, hp, Option.getD_some]

end Request

end

namespace Request

-- What is read from a text is in normal form, and has its query at the end of the text. A request in normal form is
-- read back from what is written of it, with any blanks around its parts.
theorem requests_survive_printing :
    (∀ argument : Option String,
      (ofArgument argument).IsNormal ∧
      (ofArgument argument).query.toList <:+ Text.trim (argument.getD "").toList ∧
      ((ofArgument argument).query = "" ↔ ∀ text ∈ argument, ∀ c ∈ text.toList, Text.isBlank c)) ∧
    ∀ q : Request, q.IsNormal →
      ofArgument (some q.print) = q ∧ ∀ g : Spacing, ofArgument (some (q.spaced g)) = q := by
  constructor
  case left =>
    intro argument
    refine ⟨isNormal_parse _, query_parse_suffix _, ?_⟩
    rw [ofArgument, query_parse_eq_empty_iff]
    cases argument <;> simp
  case right => exact fun q h => ⟨q.print_eq ▸ ofArgument_spaced h .plain, ofArgument_spaced h⟩

-- The hint ends in a dash and the query looks like another request. The second request is a text that was no request at
-- all, since nothing follows its colon.
theorem requests_survive_printing_within_requests :
    let q : Request := {
      filter := some { hint := some "a-", direction := some .inward }, query := "parent[b]: c" }
    let gap : Text.Gap := ⟨['\t', ' '], List.forall_mem_cons.mpr ⟨by decide, List.forall_mem_singleton.mpr rfl⟩⟩
    let r := ofArgument (some " linked[a->inward]: ")
    q.print = "linked[a-->inward]: parent[b]: c" ∧ q.IsNormal ∧ ofArgument (some q.print) = q ∧
      ofArgument (some (q.spaced ⟨gap, gap, gap, gap, gap, gap, gap, gap, gap⟩)) = q ∧
      r.print = "linked: linked[a->inward]:" ∧ r.IsNormal ∧ ofArgument (some r.print) = r := by
  intro q gap r
  have hf : LinkFilter.IsHint "a-".toList := {
    asks := mt List.all_eq_true.mpr (by decide)
    trimmed := by decide
    closed := by decide
    plain := by decide }
  have hq : q.IsNormal := {
    query := by decide
    silent := fun h => absurd h (by decide)
    filtered := fun _ => rfl
    filter := by
      rintro f ⟨⟩
      exact ⟨.inl nofun, by rintro hint ⟨⟩; exact hf⟩ }
  have ⟨hprint, hspaced⟩ := requests_survive_printing.2 q hq
  have hr := (requests_survive_printing.1 (some " linked[a->inward]: ")).1
  exact ⟨by decide, hq, hprint, hspaced _, by decide +kernel, hr, (requests_survive_printing.2 r hr).1⟩

end Request
end RelatedIssues
