import Mathlib.Algebra.Order.BigOperators.Group.List
import Mathlib.Algebra.Order.Ring.Nat
import RelatedIssues.Proofs.Search.Served
import RelatedIssues.Search.Script

namespace RelatedIssues

namespace Exchange

variable {xs : List Exchange} {n : Nat}

theorem length_found (xs : List Exchange) :
    (found xs).length = ((completing xs).map (·.entries.length)).sum := by
  simp [found, List.length_flatMap]

theorem length_found_le (h : ∀ x ∈ completing xs, x.entries.length ≤ n) :
    (found xs).length ≤ (completing xs).length * n := by
  rw [length_found]
  have hs := List.sum_le_card_nsmul ((completing xs).map (·.entries.length)) n (by simpa using h)
  simpa using hs

end Exchange

namespace Retrieval

-- The pages that count are those of one search, and a search has no more pages than it may.
theorem Retrieves.length_completing_le {q : Query} {cap : Nat} {xs : List Exchange}
    {r : Except Failure (List Json)} (h : Retrieves q (cap + 1) xs r) :
    (Exchange.completing xs).length ≤ cap + 1 := by
  cases h with
  | byCursor hc =>
    rw [Exchange.completing_of_enhanced (enhanced_of_cursor hc)]
    exact hc.length_le
  | byOffset hc ho =>
    rw [Exchange.completing_append (enhanced_of_cursor hc) (legacy_of_offset ho) ho.ne_nil]
    exact ho.length_le

section

variable {σ : Type} {client : Client σ} {s : σ} {text : String} {fields : List String}
  {pageCap pageSize : Int}

theorem length_completing_le :
    ((Exchange.completing ((issues text fields pageCap pageSize).exchanges client s)).length : Int) ≤
      max 1 pageCap := by
  have ⟨cap, hc⟩ := exists_toNat_pageCap pageCap
  have hr := retrieves_entries ⟨text, fields.eraseDups, max 1 pageSize⟩ (cap + 1) client s
  have hl := hr.length_completing_le
  rw [exchanges_issues, hc]
  omega

-- Every entry of the pages that count is one issue.
theorem length_of_issues_ok {found : List Issue}
    (h : ((issues text fields pageCap pageSize).run client s).value = .ok found) :
    found.length =
      (Exchange.found ((issues text fields pageCap pageSize).exchanges client s)).length :=
  length_eq_of_mapM (of_issues_ok h).1

end

-- A page of any length is taken as it comes, and may be the only one.
theorem exists_found_of_length (text : String) (fields : List String) (pageCap pageSize : Int) (n : Nat) :
    ∃ (s : Script) (found : List Issue),
      ((issues text fields pageCap pageSize).run Script.client s).value = .ok found ∧ found.length = n := by
  let q : Query := ⟨text, fields.eraseDups, max 1 pageSize⟩
  let entries : List Json := List.replicate n (.obj [])
  let page : Json := .obj [("issues", .arr entries), ("isLast", .bool true)]
  have ⟨cap, hc⟩ := exists_toNat_pageCap pageCap
  have ⟨found, hm⟩ : ∃ found, entries.mapM Issue.ofJson = .ok found :=
    exists_mapM_eq_ok fun entry he => ⟨{}, by rw [List.eq_of_mem_replicate he]; rfl⟩
  have hs : Script.client.ServesByCursor q { enhanced := [.ok page] } none [entries] :=
    .last rfl rfl (.inl rfl)
  have hp : ([entries].take (cap + 1)).flatten = entries := by simp
  refine ⟨{ enhanced := [.ok page] }, found, ?_, ?_⟩
  case refine_1 =>
    rw [value_issues, hc, value_entries_of_cursor hs, hp]
    exact hm
  case refine_2 => rw [length_eq_of_mapM hm, List.length_replicate]

-- A retrieval brings the entries of its pages, and it has no more pages than it may. So it keeps to its caps if no
-- page has more entries than it was asked for.
theorem issues_within_pages {σ : Type} (text : String) (fields : List String) (pageCap pageSize : Int)
    (client : Client σ) (s : σ) (found : List Issue)
    (h : ((issues text fields pageCap pageSize).run client s).value = .ok found) :
    let pages := Exchange.completing ((issues text fields pageCap pageSize).exchanges client s)
    found.length = (pages.map (·.entries.length)).sum ∧ (pages.length : Int) ≤ max 1 pageCap ∧
    ((∀ page ∈ pages, (page.entries.length : Int) ≤ max 1 pageSize) →
      (found.length : Int) ≤ max 1 pageCap * max 1 pageSize) := by
  intro pages
  have hf := length_of_issues_ok h
  have hp : (pages.length : Int) ≤ max 1 pageCap := length_completing_le
  refine ⟨hf.trans (Exchange.length_found _), hp, fun hs => ?_⟩
  have hl : found.length ≤ pages.length * (max 1 pageSize).toNat :=
    hf ▸ Exchange.length_found_le fun page hm => by have := hs page hm; omega
  calc
    (found.length : Int) ≤ pages.length * (max 1 pageSize).toNat := by exact_mod_cast hl
    _ = pages.length * max 1 pageSize := by rw [Int.toNat_of_nonneg (by omega)]
    _ ≤ max 1 pageCap * max 1 pageSize := Int.mul_le_mul_of_nonneg_right hp (by omega)

-- The first page by cursor has too many entries, but it does not count.
theorem issues_within_pages_after_fallback :
    let entry (key : String) : Json := .obj [("key", .str key)]
    let page (keys : List String) (rest : List (String × Json)) : Json :=
      .obj (("issues", .arr (keys.map entry)) :: rest)
    let s : Script := {
      enhanced := [.ok (page ["A-1", "A-2", "A-3"] [("nextPageToken", .str "A-4")]), .error (.unavailable "")]
      legacy := [.ok (page ["A-1", "A-2"] [("total", .int 3)]), .ok (page ["A-3"] [("total", .int 3)])] }
    let retrieval := issues "project = A" defaultFields 2 2
    let pages := Exchange.completing (retrieval.exchanges Script.client s)
    ∃ found, (retrieval.run Script.client s).value = .ok found ∧
      (∀ page ∈ pages, (page.entries.length : Int) ≤ 2) ∧
      found.length = 3 ∧ pages.length = 2 ∧ (found.length : Int) ≤ 2 * 2 := by
  intro entry page s retrieval pages
  have h : (retrieval.run Script.client s).value = .ok _ := rfl
  have ⟨hlength, _, hcaps⟩ := issues_within_pages _ _ _ _ Script.client s _ h
  have hsize : ∀ page ∈ pages, (page.entries.length : Int) ≤ 2 :=
    List.forall_mem_cons.mpr ⟨by decide, List.forall_mem_singleton.mpr (by decide)⟩
  exact ⟨_, h, hsize, hlength, rfl, hcaps hsize⟩

-- One page of one issue is allowed, and the page that comes has two.
theorem issues_exceed_caps :
    ¬∀ {σ : Type} (text : String) (fields : List String) (pageCap pageSize : Int) (client : Client σ) (s : σ)
      (found : List Issue), ((issues text fields pageCap pageSize).run client s).value = .ok found →
        (found.length : Int) ≤ max 1 pageCap * max 1 pageSize := by
  intro h
  let entry (key : String) : Json := .obj [("key", .str key)]
  let page : Json := .obj [("issues", .arr [entry "A-1", entry "A-2"]), ("isLast", .bool true)]
  have hl := h "project = A" defaultFields 1 1 Script.client { enhanced := [.ok page] } _ rfl
  exact absurd hl (by decide)

end Retrieval
end RelatedIssues
