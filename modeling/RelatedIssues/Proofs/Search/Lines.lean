import RelatedIssues.Proofs.Search.Retrieval

namespace RelatedIssues

theorem Event.untagged_of_debug {e : Event} (h : e.severity = .debug) : e.isTagged = false := by
  cases e <;> first | rfl | cases h

namespace Retrieval

-- The lines of a retrieval. Only a call by offset brings more than those of the pages.
def Tells (xs : List Exchange) (es : List Event) : Prop :=
  ∃ cursor offset, (∀ e ∈ cursor ++ offset, e.severity = .debug) ∧
    es = cursor ++ if xs.any (·.call.isLegacy) then .fellBack :: offset else []

section

variable {σ : Type} {client : Client σ} {s : σ} {q : Query} {cap : Nat} {text : String} {fields : List String}
  {pageCap pageSize : Int}

theorem any_isLegacy_cursor :
    (((Paging.cursor q).pages 0 none [] cap).exchanges client s).any (·.call.isLegacy) = false :=
  List.any_eq_false.mpr fun x hx => by simp [enhanced_of_cursor (Paging.reads_run client s none cap) x hx]

theorem any_isLegacy_offset :
    (((Paging.offset q).pages 0 0 [] (cap + 1)).exchanges client s).any (·.call.isLegacy) = true := by
  have hr := Paging.reads_run (p := .offset q) client s 0 (cap + 1)
  have ⟨x, hx⟩ := List.exists_mem_of_ne_nil _ hr.ne_nil
  exact List.any_eq_true.mpr ⟨x, hx, legacy_of_offset hr x hx⟩

theorem tells_entries :
    Tells ((entries q (cap + 1)).exchanges client s) ((entries q (cap + 1)).run client s).events := by
  have hc := Paging.forall_mem_events (p := .cursor q) (P := (·.severity = .debug)) (fun _ _ _ => rfl) client s 0
    none [] (cap + 1)
  have ho := Paging.forall_mem_events (p := .offset q) (P := (·.severity = .debug)) (fun _ _ _ => rfl) client
    (((Paging.cursor q).pages 0 none [] (cap + 1)).run client s).state 0 0 [] (cap + 1)
  rw [entries, Dialogue.exchanges_bind, Dialogue.run_bind, Tells, List.any_append, any_isLegacy_cursor]
  simp only [Bool.false_or]
  split
  case h_1 =>
    refine ⟨_, _, List.forall_mem_append.mpr ⟨hc, ho⟩, ?_⟩
    simp only [Dialogue.exchanges_tell, any_isLegacy_offset, if_true]
    rfl
  case h_2 => exact ⟨_, [], by simpa using hc, by simp⟩

theorem tells_issues : Tells ((issues text fields pageCap pageSize).exchanges client s)
    ((issues text fields pageCap pageSize).run client s).events := by
  have ⟨cap, hc⟩ := exists_toNat_pageCap pageCap
  rw [exchanges_issues, hc, issues, Dialogue.map, Dialogue.run_bind, hc]
  simpa using tells_entries

end

namespace Tells

variable {xs : List Exchange} {es tail : List Event} {e : Event}

theorem cases_of_mem (h : Tells xs es) (he : e ∈ es) : e.severity = .debug ∨ e = .fellBack := by
  have ⟨cursor, offset, hd, hs⟩ := h
  have ⟨hc, ho⟩ := List.forall_mem_append.mp hd
  rcases List.mem_append.mp (hs ▸ he) with he | he
  case inl => exact .inl (hc e he)
  case inr =>
    split at he
    case isTrue => exact (List.mem_cons.mp he).symm.imp_left (ho e)
    case isFalse => cases he

theorem untagged (h : Tells xs es) : ∀ e ∈ es, e.isTagged = false := by
  intro e he
  rcases h.cases_of_mem he with hd | rfl
  case inl => exact Event.untagged_of_debug hd
  case inr => rfl

theorem count_fellBack (h : Tells xs es) :
    es.count .fellBack = if xs.any (·.call.isLegacy) then 1 else 0 := by
  have ⟨cursor, offset, hd, hs⟩ := h
  have hn : ∀ l : List Event, (∀ e ∈ l, e.severity = .debug) → l.count .fellBack = 0 := fun l hl =>
    List.count_eq_zero.mpr fun hm => by cases hl _ hm
  have ⟨hc, ho⟩ := List.forall_mem_append.mp hd
  rw [hs, List.count_append, hn cursor hc, Nat.zero_add]
  split
  case isTrue => rw [List.count_cons_self, hn offset ho]
  case isFalse => rfl

theorem fellBack_mem_iff (h : Tells xs es) : .fellBack ∈ es ↔ ∃ x ∈ xs, x.call.isLegacy := by
  rw [← List.count_pos_iff, h.count_fellBack, ← List.any_eq_true]
  split <;> simp [*]

end Tells
end Retrieval
end RelatedIssues
