import RelatedIssues.Proofs.Search.Retrieval

namespace RelatedIssues

-- A page that names the page after it, and does not say that it is the last one itself.
structure Page.LeadsTo (page : Json) (token : String) : Prop where
  unfinished : page.getD "isLast" ≠ .bool true
  named      : (page.getD "nextPageToken").isTruthy
  token_eq   : token = (page.getD "nextPageToken").display

theorem Page.nextToken?_eq_some_iff {page : Json} {token : String} :
    nextToken? page = some token ↔ LeadsTo page token := by
  unfold nextToken?
  split
  case h_1 hl => exact ⟨nofun, fun h => absurd hl h.unfinished⟩
  case h_2 hl =>
    simp only [Option.ite_none_right_eq_some, Option.some.injEq]
    exact ⟨fun ⟨hn, ht⟩ => ⟨hl, hn, ht.symm⟩, fun h => ⟨h.named, h.token_eq.symm⟩⟩

-- A page is the last one if it says so or if it does not name the one after it.
theorem Page.nextToken?_eq_none_iff {page : Json} : nextToken? page = none ↔
    page.getD "isLast" = .bool true ∨ ¬(page.getD "nextPageToken").isTruthy := by
  unfold nextToken?
  split
  case h_1 hl => simp [hl]
  case h_2 hl => simp [or_iff_right hl]

theorem Page.LeadsTo.token_ne_empty {page : Json} {token : String} (h : LeadsTo page token) :
    token ≠ "" :=
  h.token_eq ▸ Json.display_ne_empty h.named

namespace Paging

variable {q : Query} {here there : Option String} {page : Json}

theorem next?_cursor_eq_some_iff : (cursor q).next? here page = some there ↔
    ∃ token, Page.LeadsTo page token ∧ there = some token := by
  simp only [cursor, Option.map_eq_some_iff, Page.nextToken?_eq_some_iff]
  exact exists_congr fun token => and_congr_right fun _ => eq_comm

theorem next?_cursor_eq_none_iff : (cursor q).next? here page = none ↔
    page.getD "isLast" = .bool true ∨ ¬(page.getD "nextPageToken").isTruthy := by
  rw [← Page.nextToken?_eq_none_iff]
  exact Option.map_eq_none_iff

end Paging

namespace Exchange

-- What some exchanges come to: the entries of all pages, or the first failure.
def outcome (xs : List Exchange) : Except Failure (List Json) :=
  (xs.mapM (m := Except Failure) reply).map (·.flatMap Page.issues)

variable {call : Call} {page : Json} {f : Failure} {xs : List Exchange}

@[simp]
theorem outcome_nil : outcome [] = .ok [] :=
  rfl

@[simp]
theorem outcome_cons_error : outcome (⟨call, .error f⟩ :: xs) = .error f := by
  rw [outcome, Retrieval.mapM_cons_eq]
  rfl

@[simp]
theorem outcome_cons_ok :
    outcome (⟨call, .ok page⟩ :: xs) = (outcome xs).map (Page.issues page ++ ·) := by
  rw [outcome, Retrieval.mapM_cons_eq, outcome]
  cases xs.mapM (m := Except Failure) reply <;> rfl

end Exchange

namespace Paging.Reads

variable {κ : Type} {p : Paging κ} {place : κ} {left : Nat} {xs : List Exchange}
  {r : Except Failure (List Json)}

theorem eq_outcome (h : p.Reads place left xs r) : r = Exchange.outcome xs := by
  induction h with
  | capped => rfl
  | failed => rw [Exchange.outcome_cons_error]
  | last => simp [Except.map]
  | next _ _ ih => rw [Exchange.outcome_cons_ok, ih]

theorem call_head? (h : p.Reads place left xs r) :
    xs.head?.map (·.call) = if left = 0 then none else some (p.call place) := by
  cases h <;> rfl

-- What the exchange at some position has to do with the one after it. The induction is on the pages, so
-- the first of them stands at position zero, and what is left to read tells whether there may be a second.
theorem call_getElem?_succ {i : Nat} {x : Exchange} (h : p.Reads place left xs r)
    (hx : xs[i]? = some x) :
    ∃ here, x.call = p.call here ∧ ∀ call, xs[i + 1]?.map (·.call) = some call ↔
      i + 1 < left ∧ ∃ page there, x.reply = .ok page ∧ p.next? here page = some there ∧
        call = p.call there := by
  induction h generalizing i with
  | capped => simp at hx
  | failed | last =>
    cases i
    case succ => simp at hx
    case zero =>
      cases hx
      exact ⟨_, rfl, by simp [*]⟩
  | @next place page place' left xs r hn hr ih =>
    cases i with
    | zero =>
      cases hx
      refine ⟨place, rfl, fun call => ?_⟩
      rw [List.getElem?_cons_succ, ← List.head?_eq_getElem?, hr.call_head?]
      cases left <;> simp [hn, eq_comm]
    | succ i =>
      have ⟨here, hc, hs⟩ := ih (i := i) (List.getElem?_cons_succ ▸ hx)
      exact ⟨here, hc, fun call => by simpa using hs call⟩

-- Nothing comes after a failure, and it is what the search comes to.
theorem eq_nil_of_failed {as bs : List Exchange} {x : Exchange} {f : Failure}
    (h : p.Reads place left xs r) (hx : xs = as ++ x :: bs) (hf : x.reply = .error f) :
    bs = [] ∧ r = .error f := by
  induction h generalizing as with
  | capped => simp at hx
  | failed =>
    cases as with
    | nil =>
      cases hx
      cases hf
      exact ⟨rfl, rfl⟩
    | cons => simp at hx
  | last =>
    cases as with
    | nil =>
      cases hx
      cases hf
    | cons => simp at hx
  | next _ _ ih =>
    cases as with
    | nil =>
      cases hx
      cases hf
    | cons a as =>
      have ⟨hb, hr⟩ := ih (List.cons.inj hx).2
      exact ⟨hb, by rw [hr]; rfl⟩

-- A search fails if and only if its last call does.
theorem getLast?_reply {f : Failure} (h : p.Reads place left xs r) :
    xs.getLast?.map (·.reply) = some (.error f) ↔ r = .error f := by
  constructor
  case mp =>
    intro hl
    have ⟨x, hx, hf⟩ := Option.map_eq_some_iff.mp hl
    have ⟨as, ha⟩ := List.getLast?_eq_some_iff.mp hx
    exact (h.eq_nil_of_failed ha hf).2
  case mpr =>
    intro hr
    have ⟨ys, call, hy, _⟩ := (hr ▸ h).eq_of_error
    simp [hy]

end Paging.Reads

namespace Retrieval

-- How a retrieval goes in `cursor` and `offset`, its exchanges of both kinds, and comes to `r`.
structure Course (q : Query) (cap : Nat) (cursor offset : List Exchange)
    (r : Except Failure (List Issue)) : Prop where
  -- There is a call by cursor, and there are no more calls of either kind than pages are allowed.
  cursor_pos : 1 ≤ cursor.length
  cursor_le  : cursor.length ≤ cap
  offset_le  : offset.length ≤ cap
  -- All calls are for the same entries.
  cursor_call : ∀ x ∈ cursor, ∃ token, x.call = .enhanced q.text q.fields q.size token
  offset_call : ∀ x ∈ offset, ∃ start, x.call = .legacy q.text q.fields start q.size
  -- The first call by cursor has no token, and there is another one after a page that leads to it.
  first : cursor.head?.map (·.call) = some (.enhanced q.text q.fields q.size none)
  next  : ∀ i x call, cursor[i]? = some x → (cursor[i + 1]?.map (·.call) = some call ↔
    i + 1 < cap ∧ ∃ page token, x.reply = .ok page ∧ Page.LeadsTo page token ∧
      call = .enhanced q.text q.fields q.size (some token))
  named : ∀ x ∈ cursor, ∀ token, x.call = .enhanced q.text q.fields q.size (some token) → token ≠ ""
  -- The calls by offset are made if the last one by cursor finds no such search. They start anew.
  fallback : offset ≠ [] ↔
    ∃ message, cursor.getLast?.map (·.reply) = some (.error (.unavailable message))
  restart  : ∀ x ∈ offset.head?, x.call = .legacy q.text q.fields 0 q.size
  -- What it comes to is told by its calls by offset alone, if there are any.
  by_cursor : offset = [] → r = (Exchange.outcome cursor).bind (·.mapM Issue.ofJson)
  by_offset : offset ≠ [] → r = (Exchange.outcome offset).bind (·.mapM Issue.ofJson)
  -- Any other failure is the end.
  fatal : ∀ as x bs f, cursor ++ offset = as ++ x :: bs → x.IsFatal → x.reply = .error f →
    bs = [] ∧ r = .error f

section

variable {q : Query} {left : Nat} {token : Option String} {xs : List Exchange}
  {r : Except Failure (List Json)}

theorem call_of_cursor (h : (Paging.cursor q).Reads token left xs r) :
    ∀ x ∈ xs, ∃ token, x.call = .enhanced q.text q.fields q.size token :=
  h.forall_call (P := fun call => ∃ token, call = .enhanced q.text q.fields q.size token)
    fun token => ⟨token, rfl⟩

theorem call_of_offset {start : Int} (h : (Paging.offset q).Reads start left xs r) :
    ∀ x ∈ xs, ∃ start, x.call = .legacy q.text q.fields start q.size :=
  h.forall_call (P := fun call => ∃ start, call = .legacy q.text q.fields start q.size)
    fun start => ⟨start, rfl⟩

theorem next_of_cursor {i : Nat} {x : Exchange} {call : Call}
    (h : (Paging.cursor q).Reads token left xs r) (hx : xs[i]? = some x) :
    xs[i + 1]?.map (·.call) = some call ↔
      i + 1 < left ∧ ∃ page token, x.reply = .ok page ∧ Page.LeadsTo page token ∧
        call = .enhanced q.text q.fields q.size (some token) := by
  have ⟨here, _, hs⟩ := h.call_getElem?_succ hx
  rw [hs call]
  refine and_congr_right fun _ => exists_congr fun page => ?_
  simp only [Paging.next?_cursor_eq_some_iff]
  constructor
  case mp =>
    intro ⟨there, hp, ⟨token, ht, he⟩, hc⟩
    exact ⟨token, hp, ht, he ▸ hc⟩
  case mpr =>
    intro ⟨token, hp, ht, hc⟩
    exact ⟨some token, hp, ⟨token, ht, rfl⟩, hc⟩

-- A token stands in a call only if a page has named it.
theorem named_of_cursor (h : (Paging.cursor q).Reads none left xs r) :
    ∀ x ∈ xs, ∀ token, x.call = .enhanced q.text q.fields q.size (some token) → token ≠ "" := by
  intro x hx token ht
  have ⟨i, hi⟩ := List.getElem?_of_mem hx
  cases i with
  | zero =>
    have hc := h.call_head?
    rw [List.head?_eq_getElem?, hi] at hc
    split at hc <;> simp [Paging.cursor, ht] at hc
  | succ i =>
    have hl := (List.getElem?_eq_some_iff.mp hi).1
    have hp : xs[i]? = some xs[i] := List.getElem?_eq_getElem (by omega)
    have hn : xs[i + 1]?.map (·.call) = some (.enhanced q.text q.fields q.size (some token)) := by
      rw [hi, Option.map_some, ht]
    have ⟨_, _, _, _, hl, hc⟩ := (next_of_cursor h hp).mp hn
    cases hc
    exact hl.token_ne_empty

end

theorem exists_append_of_not_mem {α : Type} {xs ys as bs : List α} {x : α}
    (h : xs ++ ys = as ++ x :: bs) (hn : x ∉ xs) : ∃ as', ys = as' ++ x :: bs := by
  rcases List.append_eq_append_iff.mp h with ⟨as', _, hy⟩ | ⟨cs, hx, hy⟩
  case inl => exact ⟨as', hy⟩
  case inr =>
    cases cs with
    | nil => exact ⟨[], hy.symm⟩
    | cons c cs => exact absurd (by simp [hx, (List.cons.inj hy).1]) hn

theorem Retrieves.course {q : Query} {cap : Nat} {xs : List Exchange}
    {r : Except Failure (List Json)} (h : Retrieves q (cap + 1) xs r) :
    ∃ cursor offset, xs = cursor ++ offset ∧
      Course q (cap + 1) cursor offset (r.bind (·.mapM Issue.ofJson)) := by
  cases h with
  | byCursor hc served =>
    refine ⟨xs, [], (List.append_nil xs).symm, ?_⟩
    exact {
      cursor_pos := List.length_pos_iff.mpr hc.ne_nil
      cursor_le := hc.length_le
      offset_le := Nat.zero_le _
      cursor_call := call_of_cursor hc
      offset_call := by simp
      first := hc.call_head?
      next := fun i x call hx => next_of_cursor hc hx
      named := named_of_cursor hc
      fallback := by
        simp only [hc.getLast?_reply]
        simpa using served
      restart := by simp
      by_cursor := fun _ => hc.eq_outcome ▸ rfl
      by_offset := nofun
      fatal := fun as x bs f hx _ hf => by
        rw [List.append_nil] at hx
        have ⟨hb, hr⟩ := hc.eq_nil_of_failed hx hf
        exact ⟨hb, by rw [hr]; rfl⟩
    }
  | @byOffset xs message ys _ hc ho =>
    refine ⟨xs, ys, rfl, ?_⟩
    exact {
      cursor_pos := List.length_pos_iff.mpr hc.ne_nil
      cursor_le := hc.length_le
      offset_le := ho.length_le
      cursor_call := call_of_cursor hc
      offset_call := call_of_offset ho
      first := hc.call_head?
      next := fun i x call hx => next_of_cursor hc hx
      named := named_of_cursor hc
      fallback := by
        simp only [hc.getLast?_reply]
        simp [ho.ne_nil]
      restart := fun x hx => by
        have hs := ho.call_head?
        simpa [Option.mem_def.mp hx, Paging.offset] using hs
      by_cursor := fun hn => absurd hn ho.ne_nil
      by_offset := fun _ => ho.eq_outcome ▸ rfl
      fatal := fun as x bs f hx hx' hf => by
        have hn : x ∉ xs := fun hm => not_fatal_of_unavailable hc x hm hx'
        have ⟨as', hy⟩ := exists_append_of_not_mem hx hn
        have ⟨hb, hr⟩ := ho.eq_nil_of_failed hy hf
        exact ⟨hb, by rw [hr]; rfl⟩
    }

-- Every retrieval takes this course, whatever the service replies. At least one page of at least one issue
-- is asked for, and each field once.
theorem issues_take_course {σ : Type} (text : String) (fields : List String) (pageCap pageSize : Int)
    (client : Client σ) (s : σ) :
    let retrieval := issues text fields pageCap pageSize
    ∃ cursor offset, retrieval.exchanges client s = cursor ++ offset ∧
      (retrieval.run client s).calls = (cursor ++ offset).map (·.call) ∧
      Course ⟨text, fields.eraseDups, max 1 pageSize⟩ (max 1 pageCap).toNat cursor offset
        (retrieval.run client s).value := by
  intro retrieval
  have ⟨cap, hc⟩ := exists_toNat_pageCap pageCap
  have h := retrieves_entries ⟨text, fields.eraseDups, max 1 pageSize⟩ (cap + 1) client s
  have ⟨cursor, offset, hx, hr⟩ := h.course
  have hx : retrieval.exchanges client s = cursor ++ offset := by rw [exchanges_issues, hc, hx]
  refine ⟨cursor, offset, hx, ?_, ?_⟩
  case refine_1 => rw [Dialogue.calls_eq_map_exchanges, hx]
  case refine_2 => rw [value_issues, hc]; exact hr

end Retrieval
end RelatedIssues
