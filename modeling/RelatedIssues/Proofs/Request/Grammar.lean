import RelatedIssues.Proofs.Request.Cursor
import RelatedIssues.Request.Parser

namespace RelatedIssues

-- The words for a relation. A misspelling stands for subtasks, too.
def Relation.words : Relation → List String
  | linked => ["linked"]
  | parent => ["parent"]
  | epicOf => ["epic-of"]
  | subtask => ["subtask", "substask"]

namespace LinkFilter

def arrow : List Char :=
  ['-', '>']

-- What stands between the brackets: a label, or what may be a label, an arrow and a side.
inductive Form where
  | labelled (label : List Char)
  | sided (label side : List Char)

namespace Form

def text : Form → List Char
  | labelled label => label
  | sided label side => label ++ arrow ++ side

-- A label alone is not blank. Before an arrow it may be blank, and there is no hint then.
inductive Spells : Form → LinkFilter → Prop
  | labelled : ¬arrow <:+: label → ¬(∀ c ∈ label, Text.isBlank c) →
    Spells (labelled label) { hint := some (.ofList (Text.trim label)) }
  | sided : ¬arrow <:+: label → Text.lower (Text.trim side) = d.word.toList →
    Spells (sided label side) {
      hint      := if label.all Text.isBlank then none else some (.ofList (Text.trim label))
      direction := some d }

end Form
end LinkFilter

namespace Request

-- The parts of a request: a word, perhaps a filter between brackets, and what follows the colon, with the
-- blanks behind the word and behind the brackets.
structure Form where
  word   : List Char
  gap    : List Char
  filter : Option (LinkFilter.Form × List Char)
  rest   : List Char

namespace Form

def bracket : Option (LinkFilter.Form × List Char) → List Char
  | none => []
  | some (f, after) => '[' :: (f.text ++ ']' :: after)

def text (f : Form) : List Char :=
  f.word ++ (f.gap ++ (bracket f.filter ++ ':' :: f.rest))

-- The filter between the brackets ends at the first bracket that closes.
inductive SpellsFilter : Option (LinkFilter.Form × List Char) → Option LinkFilter → Prop
  | without : SpellsFilter none none
  | within : f.Spells l → ']' ∉ f.text → (∀ b ∈ after, Text.isBlank b) →
    SpellsFilter (some (f, after)) (some l)

-- The request that the parts spell. Only linked issues are filtered.
structure Spells (f : Form) (q : Request) : Prop where
  letters  : ∀ c ∈ f.word, Text.isLetter c ∨ c = '-'
  relation : String.ofList (Text.lower f.word) ∈ q.relation.words
  blanks   : ∀ b ∈ f.gap, Text.isBlank b
  filter   : ∃ l, SpellsFilter f.filter l ∧ q.filter = if q.relation = .linked then l else none
  asks     : ¬(∀ c ∈ f.rest, Text.isBlank c)
  query    : q.query = .ofList (Text.trim f.rest)

end Form
end Request

section

open LinkFilter (arrow)

variable {c : Char} {s label side : List Char}

theorem splitArrow_cons (h : ¬arrow <+: c :: s) :
    splitArrow (c :: s) = (c :: (splitArrow s).1, (splitArrow s).2) := by
  rw [splitArrow]
  intro rest hc hs
  exact h ⟨rest, by simp [arrow, hc, hs]⟩

theorem splitArrow_of_not_infix (h : ¬arrow <:+: label) : splitArrow label = (label, none) := by
  induction label with
  | nil => rfl
  | cons c s ih =>
    have ⟨hp, hs⟩ := not_or.mp (mt List.infix_cons_iff.mpr h)
    rw [splitArrow_cons hp, ih hs]

-- The label cannot make an arrow with the dash behind it, since an arrow ends in another character.
theorem splitArrow_append (h : ¬arrow <:+: label) :
    splitArrow (label ++ arrow ++ side) = (label, some side) := by
  induction label with
  | nil => rfl
  | cons c s ih =>
    have ⟨hp, hs⟩ := not_or.mp (mt List.infix_cons_iff.mpr h)
    have hn : ¬arrow <+: c :: (s ++ arrow ++ side) := by
      cases s with
      | nil => simp [arrow]
      | cons => simpa [arrow] using hp
    rw [List.cons_append, List.cons_append, splitArrow_cons hn, ih hs]

-- The first part has no arrow in it, and all is found again in the parts.
theorem splitArrow_spec (s : List Char) :
    ¬arrow <:+: (splitArrow s).1 ∧
      s = (splitArrow s).1 ++ (splitArrow s).2.elim [] (arrow ++ ·) := by
  induction s with
  | nil => simp [splitArrow, arrow]
  | cons c s ih =>
    by_cases hp : arrow <+: c :: s
    case pos =>
      have ⟨rest, hr⟩ := hp
      rw [← hr]
      simp [splitArrow, arrow]
    case neg =>
      rw [splitArrow_cons hp]
      have ⟨hn, hs⟩ := ih
      have hc : c :: s = (c :: (splitArrow s).1) ++ (splitArrow s).2.elim [] (arrow ++ ·) :=
        congrArg (c :: ·) hs
      refine ⟨fun hi => ?_, hc⟩
      rcases List.infix_cons_iff.mp hi with hi | hi
      case inl => exact hp (hc ▸ hi.trans (List.prefix_append ..))
      case inr => exact hn hi

end

namespace LinkFilter.Form

variable {f g : Form} {l m : LinkFilter}

theorem splitArrow_text (h : f.Spells l) :
    splitArrow f.text = match f with
      | labelled label => (label, none)
      | sided label side => (label, some side) := by
  cases h with
  | labelled hn => exact splitArrow_of_not_infix hn
  | sided hn => exact splitArrow_append hn

-- A text has one form between brackets: whether there is an arrow decides which one, and the first of the
-- arrows is the one meant.
theorem eq_of_text_eq (hf : f.Spells l) (hg : g.Spells m) (h : f.text = g.text) : f = g := by
  have hs := splitArrow_text hf
  rw [h, splitArrow_text hg] at hs
  cases f <;> cases g <;> simp_all

end LinkFilter.Form

namespace Request.Form

variable {f g : Form} {q r : Request} {x y : Option (LinkFilter.Form × List Char)}
  {l m : Option LinkFilter} {gap rest rest' : List Char}

theorem isWordChar_of_letters (h : f.Spells q) : ∀ c ∈ f.word, Cursor.isWordChar c := by
  simpa [Cursor.isWordChar] using h.letters

-- Behind the blanks there is a bracket or the colon, and neither is a blank itself or belongs to a word.
theorem head?_bracket {c : Char} (h : c ∈ (bracket x ++ ':' :: rest).head?) : c = '[' ∨ c = ':' := by
  cases x with
  | none => exact .inr (Option.some.inj h).symm
  | some => exact .inl (Option.some.inj h).symm

theorem not_isBlank_head? {c : Char} (h : c ∈ (bracket x ++ ':' :: rest).head?) :
    ¬Text.isBlank c := by
  rcases head?_bracket h with rfl | rfl <;> decide

theorem not_isWordChar_head? {c : Char} (hg : ∀ b ∈ gap, Text.isBlank b)
    (h : c ∈ (gap ++ (bracket x ++ ':' :: rest)).head?) : ¬Cursor.isWordChar c := by
  cases gap with
  | nil => rcases head?_bracket h with rfl | rfl <;> decide +kernel
  | cons b gap =>
    cases h
    exact fun hw => Cursor.not_isBlank_of_isWordChar hw (hg c List.mem_cons_self)

theorem bracket_inj (hx : SpellsFilter x l) (hy : SpellsFilter y m)
    (h : bracket x ++ ':' :: rest = bracket y ++ ':' :: rest') : x = y ∧ rest = rest' := by
  cases hx with
  | without =>
    cases hy with
    | without => exact ⟨rfl, (List.cons.inj h).2⟩
    | within => cases (List.cons.inj h).1
  | within hf hn ha =>
    cases hy with
    | without => cases (List.cons.inj h).1
    | within hg hn' ha' =>
      simp only [bracket, List.cons_append, List.append_assoc, List.cons.injEq, true_and] at h
      have hs {s : List Char} (hs : ']' ∉ s) : ∀ c ∈ s, c != ']' :=
        fun c hc => bne_iff_ne.mpr fun he => hs (he ▸ hc)
      have ⟨ht, h⟩ := span_inj (hs hn) (by simp) (hs hn') (by simp) h
      have ⟨hb, h⟩ := span_inj ha (by simp; decide) ha' (by simp; decide) (List.cons.inj h).2
      have hx := LinkFilter.Form.eq_of_text_eq hf hg ht
      exact ⟨by rw [hx, hb], (List.cons.inj h).2⟩

-- A text has one form at most.
theorem eq_of_text_eq (hf : f.Spells q) (hg : g.Spells r) (h : f.text = g.text) : f = g := by
  have ⟨_, hx, _⟩ := hf.filter
  have ⟨_, hy, _⟩ := hg.filter
  have ⟨hw, h⟩ := span_inj (isWordChar_of_letters hf) (fun _ => not_isWordChar_head? hf.blanks)
    (isWordChar_of_letters hg) (fun _ => not_isWordChar_head? hg.blanks) h
  have ⟨hb, h⟩ := span_inj hf.blanks (fun _ => not_isBlank_head?) hg.blanks
    (fun _ => not_isBlank_head?) h
  have ⟨hx, hr⟩ := bracket_inj hx hy h
  cases f
  cases g
  simp_all

end Request.Form
end RelatedIssues
