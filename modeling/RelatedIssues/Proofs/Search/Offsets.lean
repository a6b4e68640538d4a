import RelatedIssues.Proofs.Search.Course
import RelatedIssues.Search.Script

namespace RelatedIssues

-- A whole number, or a truth value that counts as one.
inductive Json.Counts : Json → Int → Prop
  | int : Counts (.int n) n
  | one : Counts (.bool true) 1
  | zero : Counts (.bool false) 0

namespace Page

-- How far it is to the next page. A page that reports fewer than `size` issues, but some, is taken at its word.
inductive Reaches (size : Int) (page : Json) : Int → Prop
  | reported : (page.getD "maxResults").Counts n → 0 < n → n < size → Reaches size page n
  | asked : (∀ n, (page.getD "maxResults").Counts n → ¬(0 < n ∧ n < size)) → Reaches size page size

-- How many issues there are. A page that does not say so has the last of them.
inductive Totals (page : Json) : Int → Prop
  | reported : (page.getD "total").Counts n → Totals page n
  | missing : (∀ n, ¬(page.getD "total").Counts n) → Totals page 0

variable {j page : Json} {size n : Int}

theorem count?_eq_some_iff : count? j = some n ↔ j.Counts n := by
  constructor
  case mp =>
    intro h
    cases j with
    | int => cases h; exact .int
    | bool b => cases b <;> cases h <;> constructor
    | null | real | str | arr | obj => cases h
  case mpr =>
    intro h
    cases h <;> rfl

theorem count?_eq_none_iff : count? j = none ↔ ∀ n, ¬j.Counts n := by
  simp [Option.eq_none_iff_forall_ne_some, count?_eq_some_iff]

theorem reaches_step : Reaches size page (step size page) := by
  unfold step
  split
  case h_1 m hm =>
    have hc := count?_eq_some_iff.mp hm
    split
    case isTrue hr => exact .reported hc hr.1 hr.2
    case isFalse hr =>
      refine .asked fun k hk => ?_
      cases hm.symm.trans (count?_eq_some_iff.mpr hk)
      exact hr
  case h_2 hn => exact .asked fun k hk => absurd hk (count?_eq_none_iff.mp hn k)

theorem reaches_iff : Reaches size page n ↔ n = step size page := by
  constructor
  case mpr => exact fun h => h ▸ reaches_step
  case mp =>
    intro h
    rw [step]
    cases h with
    | reported hc hp hl => simp [count?_eq_some_iff.mpr hc, hp, hl]
    | asked hn =>
      split
      case h_1 m hm => exact (if_neg (hn m (count?_eq_some_iff.mp hm))).symm
      case h_2 => rfl

theorem totals_total : Totals page (total page) := by
  cases h : count? (page.getD "total") with
  | some n => simpa [total, h] using Totals.reported (count?_eq_some_iff.mp h)
  | none => simpa [total, h] using Totals.missing (count?_eq_none_iff.mp h)

theorem totals_iff : Totals page n ↔ n = total page := by
  constructor
  case mpr => exact fun h => h ▸ totals_total
  case mp =>
    intro h
    cases h with
    | reported hc => simp [total, count?_eq_some_iff.mpr hc]
    | missing hn => simp [total, count?_eq_none_iff.mpr hn]

-- However wrong the report is, the next page is at least one issue away and at most a page.
theorem Reaches.bounds (h : Reaches size page n) (hs : 1 ≤ size) : 1 ≤ n ∧ n ≤ size := by
  cases h with
  | reported _ hp hl => exact ⟨hp, Int.le_of_lt hl⟩
  | asked => exact ⟨hs, Int.le_refl size⟩

end Page

def Call.start? : Call → Option Int
  | enhanced .. => none
  | legacy _ _ start _ => some start

def Exchange.offsets (xs : List Exchange) : List Int :=
  xs.filterMap (·.call.start?)

namespace Paging

variable {q : Query} {here there : Int} {page : Json}

theorem next?_offset_eq_some_iff : (offset q).next? here page = some there ↔
    ∃ step total, Page.Reaches q.size page step ∧ Page.Totals page total ∧
      there = here + step ∧ there < total := by
  simp only [Page.reaches_iff, Page.totals_iff, offset]
  split <;> simp <;> omega

end Paging

namespace Retrieval

-- How the calls of a search for at most `cap` pages advance through these offsets.
structure Advances (q : Query) (cap : Nat) (xs : List Exchange) (offsets : List Int) : Prop where
  calls : xs.map (·.call) = offsets.map (.legacy q.text q.fields · q.size)
  first : offsets.head? = some 0
  -- There is another call if the cap allows it and the page before it reports more issues.
  next  : ∀ i x here, xs[i]? = some x → offsets[i]? = some here → ∀ there, offsets[i + 1]? = some there ↔
    i + 1 < cap ∧ ∃ page step total, x.reply = .ok page ∧ Page.Reaches q.size page step ∧
      Page.Totals page total ∧ there = here + step ∧ there < total
  step  : ∀ x ∈ xs, ∀ page n, x.reply = .ok page → Page.Reaches q.size page n → 1 ≤ n ∧ n ≤ q.size
  increasing : offsets.Pairwise (· < ·)
  -- No call but the first asks for a place at or beyond the last total.
  within : ∀ i x there, xs[i]? = some x → offsets[i + 1]? = some there →
    ∃ page total, x.reply = .ok page ∧ Page.Totals page total ∧ there < total

section

variable {q : Query} {left : Nat} {start here : Int} {xs : List Exchange} {r : Except Failure (List Json)}

theorem calls_of_offset (h : (Paging.offset q).Reads start left xs r) :
    xs.map (·.call) = (Exchange.offsets xs).map (.legacy q.text q.fields · q.size) := by
  induction h <;> simp_all [Paging.offset, Exchange.offsets, Call.start?]

theorem getElem?_offsets {i : Nat} (h : (Paging.offset q).Reads start left xs r) :
    (Exchange.offsets xs)[i]? = some here ↔
      xs[i]?.map (·.call) = some (.legacy q.text q.fields here q.size) := by
  rw [← List.getElem?_map, calls_of_offset h, List.getElem?_map]
  simp

theorem next_of_offset {i : Nat} {x : Exchange} (h : (Paging.offset q).Reads start left xs r)
    (hx : xs[i]? = some x) (hi : (Exchange.offsets xs)[i]? = some here) (there : Int) :
    (Exchange.offsets xs)[i + 1]? = some there ↔ i + 1 < left ∧ ∃ page step total, x.reply = .ok page ∧
      Page.Reaches q.size page step ∧ Page.Totals page total ∧ there = here + step ∧ there < total := by
  have ⟨place, hc, hn⟩ := h.call_getElem?_succ hx
  have hp : place = here := by
    rw [getElem?_offsets h, hx, Option.map_some, hc] at hi
    cases hi
    rfl
  rw [getElem?_offsets h, hn, hp]
  refine and_congr_right fun _ => exists_congr fun page => ?_
  constructor
  case mp =>
    intro ⟨there', hx, hn, he⟩
    have ⟨step, total, hs, ht, hn, hl⟩ := Paging.next?_offset_eq_some_iff.mp hn
    cases he
    exact ⟨step, total, hx, hs, ht, hn, hl⟩
  case mpr =>
    intro ⟨step, total, hx, hs, ht, hn, hl⟩
    exact ⟨there, hx, Paging.next?_offset_eq_some_iff.mpr ⟨step, total, hs, ht, hn, hl⟩, rfl⟩

-- The induction is on the pages. All offsets from some page on are behind its own one, since the next page is at least
-- one issue away.
theorem increasing_of_offset (h : (Paging.offset q).Reads start left xs r) (hs : 1 ≤ q.size) :
    (Exchange.offsets xs).Pairwise (· < ·) ∧ ∀ offset ∈ Exchange.offsets xs, start ≤ offset := by
  induction h with
  | capped => simp [Exchange.offsets]
  | failed | last => simp [Exchange.offsets, Paging.offset, Call.start?]
  | @next start page start' left xs r hn _ ih =>
    obtain ⟨step, _, hr, _, he, _⟩ := Paging.next?_offset_eq_some_iff.mp hn
    obtain ⟨hp, _⟩ := hr.bounds hs
    obtain ⟨hi, hl⟩ := ih
    have hb : ∀ offset ∈ Exchange.offsets xs, start < offset := fun offset ho => by
      have := hl offset ho
      omega
    have ho : Exchange.offsets (⟨(Paging.offset q).call start, .ok page⟩ :: xs) = start :: Exchange.offsets xs :=
      rfl
    rw [ho]
    refine ⟨List.pairwise_cons.mpr ⟨hb, hi⟩, List.forall_mem_cons.mpr ⟨Int.le_refl start, ?_⟩⟩
    exact fun offset ho => Int.le_of_lt (hb offset ho)

theorem advances_of_offset {cap : Nat} (h : (Paging.offset q).Reads 0 (cap + 1) xs r) (hs : 1 ≤ q.size) :
    Advances q (cap + 1) xs (Exchange.offsets xs) where
  calls := calls_of_offset h
  first := by
    rw [List.head?_eq_getElem?, getElem?_offsets h, ← List.head?_eq_getElem?, h.call_head?]
    rfl
  next _ _ _ hx hi there := next_of_offset h hx hi there
  step _ _ _ _ _ hr := hr.bounds hs
  increasing := (increasing_of_offset h hs).1
  within i x there hx ht := by
    have hl := (List.getElem?_eq_some_iff.mp ht).1
    have hi : (Exchange.offsets xs)[i]? = some (Exchange.offsets xs)[i] := List.getElem?_eq_getElem (by omega)
    have ⟨_, page, _, total, hr, _, htotal, _, hlt⟩ := (next_of_offset h hx hi there).mp ht
    exact ⟨page, total, hr, htotal, hlt⟩

theorem offsets_append_of_enhanced {ys : List Exchange} (h : ∀ x ∈ xs, x.call.isLegacy = false) :
    Exchange.offsets (xs ++ ys) = Exchange.offsets ys := by
  have hn : Exchange.offsets xs = [] := List.filterMap_eq_nil_iff.mpr fun x hx => by
    have hl := h x hx
    cases hc : x.call with
    | enhanced => rfl
    | legacy => simp [Call.isLegacy, hc] at hl
  rw [Exchange.offsets, List.filterMap_append, ← Exchange.offsets, hn, List.nil_append, Exchange.offsets]

theorem Retrieves.advances {cap : Nat} (h : Retrieves q (cap + 1) xs r) (hs : 1 ≤ q.size)
    (hl : ∃ x ∈ xs, x.call.isLegacy) :
    Advances q (cap + 1) (Exchange.completing xs) (Exchange.offsets xs) := by
  cases h with
  | byCursor hc =>
    have ⟨x, hx, hl⟩ := hl
    exact absurd hl (by simp [enhanced_of_cursor hc x hx])
  | byOffset hc ho =>
    rw [Exchange.completing_append (enhanced_of_cursor hc) (legacy_of_offset ho) ho.ne_nil,
      offsets_append_of_enhanced (enhanced_of_cursor hc)]
    exact advances_of_offset ho hs

end

-- A search by offset advances with every call, whatever the pages report, and so does a retrieval that falls back to
-- one.
theorem offsets_advance {σ : Type} (q : Query) (cap : Nat) (client : Client σ) (s : σ) (hcap : 1 ≤ cap)
    (hsize : 1 ≤ q.size) :
    let search := ((Paging.offset q).pages 0 0 [] cap).exchanges client s
    let retrieval := (entries q cap).exchanges client s
    Advances q cap search (Exchange.offsets search) ∧
    ((∃ x ∈ retrieval, x.call.isLegacy) →
      Advances q cap (Exchange.completing retrieval) (Exchange.offsets retrieval)) := by
  obtain ⟨cap, rfl⟩ := Nat.exists_eq_add_of_le' hcap
  constructor
  case left => exact advances_of_offset (Paging.reads_run client s 0 (cap + 1)) hsize
  case right => exact (retrieves_entries q (cap + 1) client s).advances hsize

-- The first page reports a truth value and is taken to have one issue. The second one reports what was asked for, the
-- third one less than nothing and a text for a total, which ends the search before the cap does.
theorem offsets_advance_past_wrong_reports :
    let q : Query := ⟨"project = A", ["parent"], 3⟩
    let page (size total : Json) : Reply := .ok (.obj [("maxResults", size), ("total", total)])
    let s : Script := {
      enhanced := [.error (.unavailable "")]
      legacy := [page (.bool true) (.int 9), page (.int 3) (.int 5), page (.int (-2)) (.str "9")] }
    let retrieval := (entries q 9).exchanges Script.client s
    1 ≤ 9 ∧ 1 ≤ q.size ∧ (∃ x ∈ retrieval, x.call.isLegacy) ∧
      Advances q 9 (Exchange.completing retrieval) [0, 1, 4] := by
  intro q page s retrieval
  have hl : ∃ x ∈ retrieval, x.call.isLegacy := ⟨_, List.mem_cons_of_mem _ List.mem_cons_self, rfl⟩
  have ⟨_, ha⟩ := offsets_advance q 9 Script.client s (by decide) (by decide)
  exact ⟨by decide, by decide, hl, ha hl⟩

end Retrieval
end RelatedIssues
