import RelatedIssues.Proofs.Request.Blank
import RelatedIssues.Proofs.Request.Grammar

namespace RelatedIssues

theorem trimmed?_eq_some_iff {s : List Char} {t : String} :
    trimmed? s = some t ↔ ¬(∀ c ∈ s, Text.isBlank c) ∧ t = .ofList (Text.trim s) := by
  rw [← Text.trimBy_eq_nil_iff, trimmed?]
  split
  case h_1 hn => exact ⟨nofun, fun ⟨ht, _⟩ => absurd hn ht⟩
  case h_2 hn => exact ⟨fun h => ⟨hn, (Option.some.inj h).symm⟩, fun ⟨_, h⟩ => congrArg some h.symm⟩

theorem trimmed?_eq_ite {s : List Char} : trimmed? s =
    if s.all Text.isBlank then none else some (.ofList (Text.trim s)) := by
  split
  case isTrue hb =>
    have ht : Text.trim s = [] := Text.trimBy_eq_nil_iff.mpr (List.all_eq_true.mp hb)
    rw [trimmed?, ht]
  case isFalse hb => exact trimmed?_eq_some_iff.mpr ⟨mt List.all_eq_true.mpr hb, rfl⟩

-- A word is found in a table of words that differ if and only if it stands there.
theorem lookup_eq_some_iff_mem {α β : Type} [BEq α] [LawfulBEq α] {l : List (α × β)} {a : α} {b : β}
    (h : (l.map (·.1)).Nodup) : l.lookup a = some b ↔ (a, b) ∈ l := by
  induction l with
  | nil => simp
  | cons entry l ih =>
    obtain ⟨k, v⟩ := entry
    have ⟨hn, hl⟩ := List.nodup_cons.mp h
    rw [List.lookup_cons, List.mem_cons, Prod.mk.injEq]
    split
    case h_1 hk =>
      cases eq_of_beq hk
      have hm : (a, b) ∉ l := fun hm => hn (List.mem_map.mpr ⟨_, hm, rfl⟩)
      simp [hm, eq_comm]
    case h_2 hk => simp [ne_of_beq_false hk, ih hl]

theorem Relation.ofToken?_eq_some_iff {token : List Char} {r : Relation} :
    ofToken? token = some r ↔ String.ofList (Text.lower (Text.trim token)) ∈ r.words := by
  rw [ofToken?, lookup_eq_some_iff_mem (by decide)]
  cases r <;> simp [vocabulary, all, words, word, ← String.ofList_inj]

theorem Direction.ofToken?_eq_some_iff {token : List Char} {d : Direction} :
    ofToken? token = some d ↔ Text.lower (Text.trim token) = d.word.toList := by
  rw [ofToken?, lookup_eq_some_iff_mem (by decide)]
  cases d <;> simp [vocabulary, all, word]

namespace LinkFilter

theorem ofBody?_of_spells {f : Form} {l : LinkFilter} (h : f.Spells l) : ofBody? f.text = some l := by
  rw [ofBody?, Form.splitArrow_text h]
  cases h with
  | labelled hn hb => simp [trimmed?_eq_some_iff.mpr ⟨hb, rfl⟩]
  | @sided label side d hn hd =>
    simp only [Direction.ofToken?_eq_some_iff.mpr hd, trimmed?_eq_ite]
    split <;> rfl

theorem exists_spells_of_ofBody? {body : List Char} {l : LinkFilter} (h : ofBody? body = some l) :
    ∃ f : Form, f.text = body ∧ f.Spells l := by
  have ⟨hn, hs⟩ := splitArrow_spec body
  unfold ofBody? at h
  split at h
  case h_1 => cases h
  case h_2 hint ht hd =>
    rw [hd, Option.elim_none, List.append_nil] at hs
    have ⟨hb, he⟩ := trimmed?_eq_some_iff.mp ht
    cases h
    exact ⟨.labelled (splitArrow body).1, hs.symm, he ▸ .labelled hn hb⟩
  case h_3 _ _ side hd =>
    rw [hd, Option.elim_some, ← List.append_assoc] at hs
    have ⟨d, hd, hl⟩ := Option.map_eq_some_iff.mp h
    cases hl
    exact ⟨.sided (splitArrow body).1 side, hs.symm, trimmed?_eq_ite ▸
      .sided hn (Direction.ofToken?_eq_some_iff.mp hd)⟩

end LinkFilter

namespace Request

variable {c : Cursor} {gap rest : List Char} {l : Option LinkFilter}

-- The filter is read with the blanks around it, up to the colon.
theorem takeFilter?_of_spellsFilter {x : Option (LinkFilter.Form × List Char)}
    (hx : Form.SpellsFilter x l) (hg : ∀ b ∈ gap, Text.isBlank b)
    (hr : c.rest = gap ++ (Form.bracket x ++ ':' :: rest)) :
    ∃ c' c'', takeFilter? c = some (l, c') ∧ c'.take [':'] = (true, c'') ∧ c''.rest = rest := by
  cases hx with
  | without =>
    obtain ⟨c', ht, hc⟩ := Cursor.take_of_other (y := '[') hg (by decide) (by decide) hr
    obtain ⟨c'', hm, hc⟩ := (Cursor.take_eq_true_iff (by decide)).mpr ⟨[], by simp, hc⟩
    exact ⟨c', c'', by rw [takeFilter?, ht], hm, hc⟩
  | within hf hn ha =>
    simp only [Form.bracket, List.cons_append, List.append_assoc] at hr
    obtain ⟨c₁, ht₁, hc₁⟩ := (Cursor.take_eq_true_iff (by decide)).mpr ⟨gap, hg, hr⟩
    obtain ⟨c₂, ht₂, hc₂⟩ := Cursor.takeUntil_eq_some_iff.mpr ⟨hc₁, hn⟩
    obtain ⟨c₃, ht₃, hc₃⟩ := (Cursor.take_eq_true_iff (by decide)).mpr ⟨_, ha, hc₂⟩
    refine ⟨c₂, c₃, ?_, ht₃, hc₃⟩
    simp [takeFilter?, ht₁, ht₂, LinkFilter.ofBody?_of_spells hf]

theorem exists_spellsFilter_of_takeFilter? {c' c'' : Cursor} (hf : takeFilter? c = some (l, c'))
    (ht : c'.take [':'] = (true, c'')) :
    ∃ x gap, Form.SpellsFilter x l ∧ (∀ b ∈ gap, Text.isBlank b) ∧
      c.rest = gap ++ (Form.bracket x ++ ':' :: c''.rest) := by
  have ⟨after, ha, hc⟩ := (Cursor.take_eq_true_iff (by decide)).mp ⟨c'', ht, rfl⟩
  unfold takeFilter? at hf
  split at hf
  case h_1 c₁ h₁ =>
    cases hf
    have ⟨gap, hg, hr⟩ := Cursor.exists_gap_of_take h₁
    refine ⟨none, gap ++ after, .without, List.forall_mem_append.mpr ⟨hg, ha⟩, ?_⟩
    rw [hr, hc, List.append_assoc]
    rfl
  case h_2 c₁ h₁ =>
    have ⟨gap, hg, hr₁⟩ := (Cursor.take_eq_true_iff (by decide)).mp ⟨c₁, h₁, rfl⟩
    split at hf
    case h_1 => cases hf
    case h_2 body c₂ h₂ =>
      have ⟨f, hb, he⟩ := Option.map_eq_some_iff.mp hf
      cases he
      have ⟨hr₂, hn⟩ := Cursor.takeUntil_eq_some_iff.mp ⟨c', h₂, rfl⟩
      have ⟨form, ht, hs⟩ := LinkFilter.exists_spells_of_ofBody? hb
      refine ⟨some (form, after), gap, .within hs (ht ▸ hn) ha, hg, ?_⟩
      rw [hr₁, hr₂, hc, Form.bracket, ht]
      simp

-- A word is read as it stands, since no blank belongs to it.
theorem ofToken?_word {word : List Char} {r : Relation} (h : ∀ c ∈ word, Cursor.isWordChar c) :
    Relation.ofToken? word = some r ↔ String.ofList (Text.lower word) ∈ r.words := by
  have ht : Text.trim word = word :=
    Text.trimBy_of_forall_not fun c hc => Cursor.not_isBlank_of_isWordChar (h c hc)
  rw [Relation.ofToken?_eq_some_iff, ht]

theorem ofPrefixed?_eq_some_iff {text : List Char} {q : Request} :
    ofPrefixed? text = some q ↔ ∃ f : Form, f.text = text ∧ f.Spells q := by
  constructor
  case mp =>
    intro h
    simp only [ofPrefixed?, Option.bind_eq_bind, Option.bind_eq_some_iff] at h
    obtain ⟨relation, hr, ⟨l, c⟩, hf, h⟩ := h
    split at h
    case h_1 => cases h
    case h_2 c' ht =>
      obtain ⟨query, hq, h⟩ := Option.bind_eq_some_iff.mp h
      cases h
      obtain ⟨x, gap, hx, hg, hs⟩ := exists_spellsFilter_of_takeFilter? hf ht
      have hw : ∀ c ∈ text.takeWhile Cursor.isWordChar, Cursor.isWordChar c :=
        fun _ hc => List.mem_takeWhile_imp hc
      obtain ⟨ha, hq⟩ := trimmed?_eq_some_iff.mp hq
      refine ⟨⟨text.takeWhile Cursor.isWordChar, gap, x, c'.rest⟩, ?_, ?_⟩
      case refine_1 =>
        rw [Form.text, ← hs, Cursor.rest_takeWord, Cursor.rest_start, List.takeWhile_append_dropWhile]
      case refine_2 => exact {
        letters := by simpa [Cursor.isWordChar] using hw
        relation := (ofToken?_word hw).mp hr
        blanks := hg
        filter := ⟨l, hx, rfl⟩
        asks := ha
        query := hq }
  case mpr =>
    rintro ⟨f, ht, h⟩
    obtain ⟨l, hx, hl⟩ := h.filter
    have hw := Form.isWordChar_of_letters h
    obtain ⟨hword, hrest⟩ := Cursor.takeWord_of_split (c := .start text) ht.symm hw
      fun _ => Form.not_isWordChar_head? h.blanks
    obtain ⟨c, c', hf, hm, hr⟩ := takeFilter?_of_spellsFilter hx h.blanks hrest
    have hq := trimmed?_eq_some_iff.mpr ⟨h.asks, h.query⟩
    rw [← hr] at hq
    simp only [ofPrefixed?, hword, (ofToken?_word hw).mpr h.relation, hf, hm, hq, Option.bind_eq_bind,
      Option.bind_some]
    rw [filterFor, ← hl]
    rfl

-- Without a word at its start a text is a query as a whole.
theorem parse_of_wordless {c : Char} {s : List Char} (hb : ∀ x ∈ c :: s, ¬Text.isBlank x)
    (hw : ¬Cursor.isWordChar c) : parse (.ofList (c :: s)) = { query := .ofList (c :: s) } := by
  have ht : Text.trim (c :: s) = c :: s := Text.trimBy_of_forall_not hb
  have hword : (Cursor.start (c :: s)).takeWord.1 = [] := List.takeWhile_cons_of_neg hw
  have hr : Relation.ofToken? [] = none := by decide
  have hp : ofPrefixed? (c :: s) = none := by
    simp only [ofPrefixed?, hword, hr, Option.bind_eq_bind, Option.bind_none]
  rw [parse, String.toList_ofList, ht, hp, if_neg (List.cons_ne_nil c s)]
  rfl

-- A missing or a blank text asks for nothing. Any other text that has a form has only this one, and is the
-- request that its parts spell; and a text that has no form is a query for linked issues as a whole.
theorem ofArgument_follows_grammar (argument : Option String) :
    let text := Text.trim (argument.getD "").toList
    let request := ofArgument argument
    (text = [] → request = { relation := .linked, filter := none, query := "" }) ∧
    (text ≠ [] →
      (∀ (f : Form) (q : Request), f.text = text → f.Spells q →
        request = q ∧ ∀ (g : Form) (r : Request), g.text = text → g.Spells r → g = f) ∧
      ((∀ (f : Form) (q : Request), f.text = text → ¬f.Spells q) →
        request = { relation := .linked, filter := none, query := .ofList text })) := by
  intro text request
  have hp : request = if text = [] then {} else (ofPrefixed? text).getD { query := .ofList text } := rfl
  constructor
  case left => exact fun ht => hp.trans (if_pos ht)
  case right =>
    intro ht
    rw [if_neg ht] at hp
    constructor
    case left =>
      intro f q hf h
      rw [ofPrefixed?_eq_some_iff.mpr ⟨f, hf, h⟩] at hp
      exact ⟨hp, fun g r hg h' => Form.eq_of_text_eq h' h (hg.trans hf.symm)⟩
    case right =>
      intro hn
      cases ho : ofPrefixed? text with
      | none => rw [hp, ho, Option.getD_none]
      | some q =>
        have ⟨f, hf, h⟩ := ofPrefixed?_eq_some_iff.mp ho
        exact absurd h (hn f q hf)

-- The first text has a Kelvin sign in its word and a colon in its query. The other one has a second arrow
-- between its brackets, and no form therefore.
theorem ofArgument_follows_grammar_of_two_texts :
    ofArgument (some " lin\u212aed [ blocks -> Outward]: A: B ") =
      { filter := some { hint := some "blocks", direction := some .outward }, query := "A: B" } ∧
    ofArgument (some "linked[a->b->inward]: A") = { query := "linked[a->b->inward]: A" } ∧
    ofArgument none = {} := by
  refine ⟨?_, ?_, (ofArgument_follows_grammar none).1 rfl⟩
  case refine_1 =>
    have hx : Form.SpellsFilter (some (.sided " blocks ".toList " Outward".toList, []))
        (some { hint := some "blocks", direction := some .outward }) := by
      have hl : LinkFilter.Form.Spells (.sided " blocks ".toList " Outward".toList) _ :=
        .sided (d := .outward) (by decide +kernel) (by decide +kernel)
      have hi : (if " blocks ".toList.all Text.isBlank then none
          else some (String.ofList (Text.trim " blocks ".toList))) = some "blocks" := by decide +kernel
      rw [hi] at hl
      exact .within hl (by decide +kernel) nofun
    have hw : "lin\u212aed".toList.all fun c => Text.isLetter c || c = '-' := by decide +kernel
    have hs : Form.Spells
        ⟨"lin\u212aed".toList, [' '], some (.sided " blocks ".toList " Outward".toList, []), " A: B".toList⟩
        { filter := some { hint := some "blocks", direction := some .outward }, query := "A: B" } := {
      letters := fun c hc => by simpa using List.all_eq_true.mp hw c hc
      relation := by decide +kernel
      blanks := List.forall_mem_singleton.mpr rfl
      filter := ⟨_, hx, rfl⟩
      asks := mt List.all_eq_true.mpr (by decide +kernel)
      query := by decide +kernel }
    have h := ofArgument_follows_grammar (some " lin\u212aed [ blocks -> Outward]: A: B ")
    exact ((h.2 (by decide +kernel)).1 _ _ (by decide +kernel) hs).1
  case refine_2 =>
    have hn : ofPrefixed? "linked[a->b->inward]: A".toList = none := by decide +kernel
    have ht : Text.trim "linked[a->b->inward]: A".toList = "linked[a->b->inward]: A".toList := by
      decide +kernel
    have h := ofArgument_follows_grammar (some "linked[a->b->inward]: A")
    have ho := (h.2 (by decide +kernel)).2 fun g r hg hr => by
      cases hn.symm.trans (ofPrefixed?_eq_some_iff.mpr ⟨g, hg.trans ht, hr⟩)
    exact ho.trans (by decide +kernel)

end Request
end RelatedIssues
