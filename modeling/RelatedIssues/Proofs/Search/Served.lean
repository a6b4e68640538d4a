import RelatedIssues.Proofs.Search.Course

namespace RelatedIssues

-- Pages of `n` entries each. The last one may have fewer.
inductive FullPages {α : Type} (n : Nat) : List (List α) → Prop
  | last : page.length ≤ n → FullPages n [page]
  | next : page.length = n → FullPages n pages → FullPages n (page :: pages)

theorem FullPages.flatten_take {α : Type} {n : Nat} {pages : List (List α)} (h : FullPages n pages)
    (k : Nat) : (pages.take k).flatten = pages.flatten.take (k * n) := by
  induction h generalizing k with
  | @last page hl =>
    cases k with
    | zero => simp
    | succ k =>
      have hk : n ≤ (k + 1) * n := Nat.le_mul_of_pos_left n k.succ_pos
      simp [List.take_of_length_le (Nat.le_trans hl hk)]
  | next hl _ ih =>
    cases k with
    | zero => simp
    | succ k =>
      rw [List.take_succ_cons, List.flatten_cons, List.flatten_cons, ih, Nat.succ_mul, Nat.add_comm,
        ← hl, List.take_length_add_append]

namespace Paging

-- A client answers a search with pages of these entries from a place on, and tells with each page where
-- the next one is, until the last.
inductive Serves {κ σ : Type} (client : Client σ) (p : Paging κ) :
    σ → κ → List (List Json) → Prop
  | last : client.answer s (p.call place) = (.ok page, s') → p.next? place page = none →
    Serves client p s place [Page.issues page]
  | next : client.answer s (p.call place) = (.ok page, s') → p.next? place page = some place' →
    Serves client p s' place' served → Serves client p s place (Page.issues page :: served)

-- A search reads as many of the pages as it may.
theorem Serves.value_pages {κ σ : Type} {client : Client σ} {p : Paging κ} {s : σ} {place : κ}
    {served : List (List Json)} (h : Serves client p s place served) (page : Nat) (found : List Json)
    (left : Nat) :
    ((p.pages page place found left).run client s).value =
      .ok (found ++ (served.take left).flatten) := by
  induction h generalizing page found left with
  | last ha hn =>
    cases left with
    | zero => simp [pages]
    | succ left => simp [pages, Dialogue.value_run_ask ha, hn]
  | next ha hn _ ih =>
    cases left with
    | zero => simp [pages]
    | succ left => simp [pages, Dialogue.value_run_ask ha, hn, ih]

end Paging

theorem Page.issues_eq_of_arr {page : Json} {entries : List Json}
    (h : page.getD "issues" = .arr entries) : issues page = entries := by
  rw [issues, h, Json.itemsD]

-- A page reaches as far as its service says, which is its limit if that is less than what was asked for.
theorem Page.step_eq_min {page : Json} {size limit : Nat} (hl : 1 ≤ limit)
    (h : page.getD "maxResults" = .int (min size limit : Nat)) :
    step size page = (min size limit : Nat) := by
  simp only [step, h, count?]
  split <;> omega

namespace Client

-- A client has the pages of a query by cursor. Every page but the last leads to the next one.
inductive ServesByCursor {σ : Type} (client : Client σ) (q : Query) :
    σ → Option String → List (List Json) → Prop
  | last : client.answer s (.enhanced q.text q.fields q.size token) = (.ok page, s') →
    page.getD "issues" = .arr entries →
    (page.getD "isLast" = .bool true ∨ ¬(page.getD "nextPageToken").isTruthy) →
    ServesByCursor client q s token [entries]
  | next : client.answer s (.enhanced q.text q.fields q.size token) = (.ok page, s') →
    page.getD "issues" = .arr entries → Page.LeadsTo page token' →
    ServesByCursor client q s' (some token') served →
    ServesByCursor client q s token (entries :: served)

-- A client has the entries of a query by offset only. It gives as many of them at once as it is asked for,
-- or as many as its limit allows.
structure ServesByOffset {σ : Type} (client : Client σ) (q : Query) (limit : Nat)
    (entries : List Json) : Prop where
  unavailable : ∀ s, ∃ message,
    (client.answer s (.enhanced q.text q.fields q.size none)).1 = .error (.unavailable message)
  window : ∀ s (start : Nat), ∃ page,
    (client.answer s (.legacy q.text q.fields start q.size)).1 = .ok page ∧
    page.getD "issues" = .arr ((entries.drop start).take (min q.size.toNat limit)) ∧
    page.getD "maxResults" = .int (min q.size.toNat limit : Nat) ∧
    page.getD "total" = .int entries.length

variable {σ : Type} {client : Client σ} {q : Query} {s : σ} {token : Option String} {limit : Nat}
  {entries : List Json} {served : List (List Json)}

theorem ServesByCursor.serves (h : client.ServesByCursor q s token served) :
    Paging.Serves client (.cursor q) s token served := by
  induction h with
  | last ha he hl =>
    exact Page.issues_eq_of_arr he ▸ .last ha (Paging.next?_cursor_eq_none_iff.mpr hl)
  | next ha he hl _ ih =>
    exact Page.issues_eq_of_arr he ▸ .next ha (Paging.next?_cursor_eq_some_iff.mpr ⟨_, hl, rfl⟩) ih

-- The induction is on how many entries there are from the offset on.
theorem ServesByOffset.serves (h : client.ServesByOffset q limit entries) (hq : 1 ≤ q.size)
    (hl : 1 ≤ limit) (s : σ) (start : Nat) :
    ∃ served, Paging.Serves client (.offset q) s (start : Int) served ∧
      served.flatten = entries.drop start ∧ FullPages (min q.size.toNat limit) served := by
  induction hn : entries.length - start using Nat.strongRecOn generalizing s start with
  | _ n ih =>
    obtain ⟨page, ha, hi, hm, ht⟩ := h.window s start
    obtain ⟨s', ha⟩ : ∃ s', client.answer s ((Paging.offset q).call start) = (.ok page, s') :=
      ⟨_, Prod.ext ha rfl⟩
    have hs : Page.step q.size page = (min q.size.toNat limit : Nat) := by
      rw [← Page.step_eq_min hl hm, Int.toNat_of_nonneg (by omega)]
    have hi := Page.issues_eq_of_arr hi
    have ht : Page.total page = entries.length := by rw [Page.total, ht]; rfl
    by_cases hr : entries.length ≤ start + min q.size.toNat limit
    case pos =>
      have hx : (Paging.offset q).next? start page = none := by
        simp only [Paging.offset, hs, ht]
        exact if_pos (by omega)
      refine ⟨[_], .last ha hx, ?_, ?_⟩
      case refine_1 =>
        rw [List.flatten_singleton, hi, List.take_of_length_le (by rw [List.length_drop]; omega)]
      case refine_2 => exact .last (by rw [hi]; exact List.length_take_le ..)
    case neg =>
      have hx : (Paging.offset q).next? start page =
          some ((start + min q.size.toNat limit : Nat) : Int) := by
        simp only [Paging.offset, hs, ht]
        exact (if_neg (by omega)).trans (by simp)
      obtain ⟨served, hp, hf, hu⟩ := ih _ (by omega) s' (start + min q.size.toNat limit) rfl
      refine ⟨_ :: served, .next ha hx hp, ?_, ?_⟩
      case refine_1 => rw [List.flatten_cons, hf, hi, ← List.drop_drop, List.take_append_drop]
      case refine_2 => exact .next (by rw [hi, List.length_take, List.length_drop]; omega) hu

end Client

namespace Retrieval

-- A retrieval comes to the issues that these entries are.
def ComesTo (value : Except Failure (List Issue)) (entries : List Json) : Prop :=
  ∃ issues, entries.mapM Issue.ofJson = .ok issues ∧ value = .ok issues

section

variable {σ : Type} {client : Client σ} {q : Query} {s : σ} {cap limit : Nat} {entries : List Json}
  {served : List (List Json)}

theorem value_entries_of_cursor (h : client.ServesByCursor q s none served) :
    ((Retrieval.entries q cap).run client s).value = .ok (served.take cap).flatten := by
  rw [Retrieval.entries, Dialogue.value_run_bind, h.serves.value_pages]
  rfl

-- The search by cursor breaks off at its first call.
theorem value_entries_of_offset (h : client.ServesByOffset q limit entries) (hc : 1 ≤ cap)
    (hq : 1 ≤ q.size) (hl : 1 ≤ limit) : ((Retrieval.entries q cap).run client s).value =
      .ok (entries.take (cap * min q.size.toNat limit)) := by
  obtain ⟨message, hu⟩ := h.unavailable s
  have hu : client.answer s ((Paging.cursor q).call none) = (.error (.unavailable message), _) :=
    Prod.ext hu rfl
  have hb : (((Paging.cursor q).pages 0 none [] cap).run client s).value =
      .error (.unavailable message) := by
    rw [← Nat.sub_add_cancel hc, Paging.pages, Dialogue.value_run_ask hu]
    rfl
  rw [Retrieval.entries, Dialogue.value_run_bind, hb, Dialogue.value_run_tell]
  obtain ⟨served, hs, hf, hp⟩ := h.serves hq hl (((Paging.cursor q).pages 0 none [] cap).run client s).state 0
  exact (hs.value_pages 0 [] cap).trans (by rw [List.nil_append, hp.flatten_take, hf]; rfl)

variable {text : String} {fields : List String} {size : Nat}

-- What is retrieved of entries that all are issues is what is read of them.
theorem comesTo_issues {l : List Json} (hc : 1 ≤ cap) (hs : 1 ≤ size)
    (hl : ∀ entry ∈ l, ∃ issue, Issue.ofJson entry = .ok issue)
    (h : ((Retrieval.entries ⟨text, fields.eraseDups, size⟩ cap).run client s).value = .ok l) :
    ComesTo ((issues text fields cap size).run client s).value l := by
  have ⟨found, hf⟩ := exists_mapM_eq_ok hl
  have hc : (max 1 (cap : Int)).toNat = cap := by omega
  have hs : max 1 (size : Int) = size := by omega
  exact ⟨found, hf, by rw [value_issues, hc, hs, h]; exact hf⟩

theorem comesTo_of_offset (hr : ∀ entry ∈ entries, ∃ issue, Issue.ofJson entry = .ok issue)
    (hc : 1 ≤ cap) (hs : 1 ≤ size) (hl : 1 ≤ limit)
    (h : client.ServesByOffset ⟨text, fields.eraseDups, size⟩ limit entries) :
    ComesTo ((issues text fields cap size).run client s).value (entries.take (cap * min size limit)) :=
  comesTo_issues hc hs (fun entry he => hr entry (List.mem_of_mem_take he))
    (value_entries_of_offset h hc (Int.ofNat_le.mpr hs) hl)

theorem comesTo_of_cursor (hr : ∀ entry ∈ served.flatten, ∃ issue, Issue.ofJson entry = .ok issue)
    (hc : 1 ≤ cap) (hs : 1 ≤ size)
    (h : client.ServesByCursor ⟨text, fields.eraseDups, size⟩ s none served) :
    ComesTo ((issues text fields cap size).run client s).value (served.take cap).flatten := by
  refine comesTo_issues hc hs (fun entry he => hr entry ?_) (value_entries_of_cursor h)
  have ⟨page, hp, hm⟩ := List.mem_flatten.mp he
  exact List.mem_flatten.mpr ⟨page, List.mem_of_mem_take hp, hm⟩

end

end Retrieval

namespace Client

-- Two clients that have the same entries of a query, one by offset and one by cursor, and that both give as
-- many of them at once as they are asked for.
structure ServeAlike {σ τ : Type} (byOffset : Client σ) (byCursor : Client τ) (t : τ) (q : Query)
    (entries : List Json) : Prop where
  offset : ∃ limit : Nat, q.size ≤ limit ∧ byOffset.ServesByOffset q limit entries
  cursor : ∃ served, byCursor.ServesByCursor q t none served ∧ served.flatten = entries ∧
    FullPages q.size.toNat served

theorem ServeAlike.value_issues_eq {σ τ : Type} {byOffset : Client σ} {byCursor : Client τ} {s : σ} {t : τ}
    {text : String} {fields : List String} {cap size : Nat} {entries : List Json}
    (hr : ∀ entry ∈ entries, ∃ issue, Issue.ofJson entry = .ok issue) (hc : 1 ≤ cap) (hs : 1 ≤ size)
    (h : ServeAlike byOffset byCursor t ⟨text, fields.eraseDups, size⟩ entries) :
    ∃ issues, ((Retrieval.issues text fields cap size).run byOffset s).value = .ok issues ∧
      ((Retrieval.issues text fields cap size).run byCursor t).value = .ok issues := by
  have ⟨limit, hl, ho⟩ := h.offset
  have hl : size ≤ limit := Int.ofNat_le.mp hl
  have ⟨served, hb, hf, hp⟩ := h.cursor
  have ⟨issues, hm, hv⟩ := Retrieval.comesTo_of_offset (s := s) hr hc hs (Nat.le_trans hs hl) ho
  have ⟨issues', hm', hv'⟩ := Retrieval.comesTo_of_cursor (hf ▸ hr) hc hs hb
  have hx : (served.take cap).flatten = entries.take (cap * min size limit) := by
    rw [hp.flatten_take, hf, Int.toNat_natCast, Nat.min_eq_left hl]
  rw [hx, hm] at hm'
  cases hm'
  exact ⟨issues, hv, hv'⟩

end Client
end RelatedIssues
