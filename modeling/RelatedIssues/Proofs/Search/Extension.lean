import RelatedIssues.Proofs.Search.Retrieval
import RelatedIssues.Search.Script

namespace RelatedIssues

namespace Paging

variable {κ σ : Type} {p : Paging κ} {left left' : Nat} {client : Client σ} {all' : List Json}

-- The induction follows the smaller number of pages. Where it is used up, the larger search has kept what was
-- found so far.
theorem pages_prefix (hl : left ≤ left') {s : σ} {page : Nat} {place : κ} {found : List Json}
    (h : ((p.pages page place found left').run client s).value = .ok all') :
    ∃ all, ((p.pages page place found left).run client s).value = .ok all ∧ all <+: all' ∧
      (p.pages page place found left).exchanges client s <+:
        (p.pages page place found left').exchanges client s := by
  induction left generalizing left' s page place found
  case zero =>
    obtain ⟨r, _, hv⟩ := reads_pages (p := p) client s page place found left'
    rw [h] at hv
    cases r <;> cases hv
    exact ⟨found, rfl, List.prefix_append .., List.nil_prefix⟩
  case succ left ih =>
    obtain ⟨left', he⟩ : ∃ n, left' = n + 1 := ⟨left' - 1, by omega⟩
    subst he
    obtain ⟨reply, s', ha⟩ : ∃ reply s', client.answer s (p.call place) = (reply, s') := ⟨_, _, rfl⟩
    rw [pages, Dialogue.value_run_ask ha] at h
    rw [pages, pages, Dialogue.value_run_ask ha, Dialogue.exchanges_ask ha, Dialogue.exchanges_ask ha]
    cases reply
    case error f => cases h
    case ok data =>
      simp only [Dialogue.exchanges_tell, Dialogue.value_run_tell] at h ⊢
      cases hn : p.next? place data
      case none =>
        rw [hn] at h
        exact ⟨all', h, List.prefix_rfl, List.prefix_rfl⟩
      case some next =>
        rw [hn] at h
        obtain ⟨all, hv, hp, hx⟩ := ih (Nat.le_of_succ_le_succ hl) h
        exact ⟨all, hv, hp, List.cons_prefix_cons.mpr ⟨rfl, hx⟩⟩

-- A first call that fails ends a search, however many pages it could have read.
theorem run_pages_of_error {s s' : σ} {page : Nat} {place : κ} {found : List Json} {f : Failure}
    (ha : client.answer s (p.call place) = (.error f, s')) :
    (p.pages page place found (left + 1)).run client s = ⟨[p.call place], [], s', .error f⟩ := by
  simp [pages, Dialogue.run, ha]

theorem value_pages_of_last {s s' : σ} {page : Nat} {place : κ} {found : List Json} {data : Json}
    (ha : client.answer s (p.call place) = (.ok data, s')) (hn : p.next? place data = none) :
    ((p.pages page place found (left + 1)).run client s).value = .ok (found ++ Page.issues data) := by
  simp [pages, Dialogue.run, ha, hn]

-- An empty page at the start is the last one.
theorem next?_offset_empty {q : Query} (h : 0 ≤ q.size) : (offset q).next? 0 (.obj []) = none := by
  have hs : (0 : Int) ≤ 0 + q.size := by omega
  exact if_pos hs

end Paging

namespace Exchange

-- Whether there are cursors shows at the first call, if it shows at all.
def Settled (xs : List Exchange) : Prop :=
  (∃ message, xs.head?.map (·.reply) = some (.error (.unavailable message))) ∨
  ∀ x ∈ xs, x.call.isLegacy = false → ∀ message, x.reply ≠ .error (.unavailable message)

end Exchange

namespace Retrieval

variable {σ : Type} {client : Client σ} {s : σ} {q : Query} {cap cap' : Nat} {pageCap pageCap' : Int}
  {text : String} {fields : List String} {pageSize : Int}

theorem exchanges_entries_of_error {s' : σ} {message : String}
    (ha : client.answer s ((Paging.cursor q).call none) = (.error (.unavailable message), s')) :
    (entries q (cap + 1)).exchanges client s =
      ⟨(Paging.cursor q).call none, .error (.unavailable message)⟩ ::
        ((Paging.offset q).pages 0 0 [] (cap + 1)).exchanges client s' := by
  rw [entries, Dialogue.exchanges_bind, Paging.run_pages_of_error ha, Paging.pages,
    Dialogue.exchanges_ask ha]
  simp

theorem value_entries_of_error {s' : σ} {message : String}
    (ha : client.answer s ((Paging.cursor q).call none) = (.error (.unavailable message), s')) :
    ((entries q (cap + 1)).run client s).value =
      (((Paging.offset q).pages 0 0 [] (cap + 1)).run client s').value := by
  rw [entries, Dialogue.value_run_bind, Paging.run_pages_of_error ha]
  rfl

-- A search by cursor that finds its entries is all there is.
theorem value_entries_of_found {found : List Json}
    (h : (((Paging.cursor q).pages 0 none [] cap).run client s).value = .ok found) :
    ((entries q cap).run client s).value = .ok found := by
  rw [entries, Dialogue.value_run_bind, h]
  rfl

theorem exchanges_entries_of_found {found : List Json}
    (h : (((Paging.cursor q).pages 0 none [] cap).run client s).value = .ok found) :
    (entries q cap).exchanges client s = ((Paging.cursor q).pages 0 none [] cap).exchanges client s := by
  rw [entries, Dialogue.exchanges_bind, h]
  simp

theorem head?_exchanges_entries : ((entries q (cap + 1)).exchanges client s).head?.map (·.reply) =
    some (client.answer s ((Paging.cursor q).call none)).1 := by
  simp [entries, Paging.pages, Dialogue.bind, Dialogue.exchanges]

-- If the service never says that it has no cursors, then what is found is found by cursor.
theorem cursor_ok_of_served {found : List Json} (h : ((entries q cap).run client s).value = .ok found)
    (hx : ∀ x ∈ (entries q cap).exchanges client s, x.call.isLegacy = false →
      ∀ message, x.reply ≠ .error (.unavailable message)) :
    (((Paging.cursor q).pages 0 none [] cap).run client s).value = .ok found := by
  have hr := Paging.reads_run (p := .cursor q) client s none cap
  rw [entries, Dialogue.exchanges_bind] at hx
  rw [entries, Dialogue.value_run_bind] at h
  cases hv : (((Paging.cursor q).pages 0 none [] cap).run client s).value
  case ok => rwa [hv] at h
  case error f =>
    rw [hv] at h hr
    obtain ⟨ys, call, hys, _⟩ := hr.eq_of_error
    have hm : ⟨call, .error f⟩ ∈ ((Paging.cursor q).pages 0 none [] cap).exchanges client s := by
      simp [hys]
    cases f
    case unavailable message =>
      exact absurd rfl (hx _ (List.mem_append_left _ hm) (enhanced_of_cursor hr _ hm) message)
    all_goals cases h

-- More pages may be read by one search and by the other, but not by the one where it was the other before.
theorem entries_prefix {all' : List Json} (hc : cap ≤ cap')
    (hs : Exchange.Settled ((entries q (cap' + 1)).exchanges client s))
    (h : ((entries q (cap' + 1)).run client s).value = .ok all') :
    ∃ all, ((entries q (cap + 1)).run client s).value = .ok all ∧ all <+: all' ∧
      (entries q (cap + 1)).exchanges client s <+: (entries q (cap' + 1)).exchanges client s := by
  have hc := Nat.succ_le_succ hc
  cases hs with
  | inl hu =>
    have ⟨message, hm⟩ := hu
    rw [head?_exchanges_entries, Option.some_inj] at hm
    have ha : client.answer s ((Paging.cursor q).call none) = (.error (.unavailable message), _) :=
      Prod.ext hm rfl
    rw [value_entries_of_error ha] at h
    have ⟨all, hv, hp, hx⟩ := Paging.pages_prefix hc h
    rw [value_entries_of_error ha, exchanges_entries_of_error ha, exchanges_entries_of_error ha]
    exact ⟨all, hv, hp, List.cons_prefix_cons.mpr ⟨rfl, hx⟩⟩
  | inr hx =>
    have h := cursor_ok_of_served h hx
    have ⟨all, hv, hp, hx⟩ := Paging.pages_prefix hc h
    rw [exchanges_entries_of_found h, exchanges_entries_of_found hv]
    exact ⟨all, value_entries_of_found hv, hp, hx⟩

theorem mapM_prefix {α β ε : Type} {f : α → Except ε β} {l l' : List α} {bs' : List β} (hl : l <+: l')
    (h : l'.mapM f = .ok bs') : ∃ bs, l.mapM f = .ok bs ∧ bs <+: bs' := by
  have ⟨rest, he⟩ := hl
  rw [← he, List.mapM_append] at h
  cases hf : l.mapM f <;> cases hr : rest.mapM f <;> rw [hf, hr] at h <;> cases h
  exact ⟨_, rfl, List.prefix_append ..⟩

-- So with a larger cap the same issues are found first, by the same calls.
theorem issues_prefix {all' : List Issue} (hc : pageCap ≤ pageCap')
    (hs : Exchange.Settled ((issues text fields pageCap' pageSize).exchanges client s))
    (h : ((issues text fields pageCap' pageSize).run client s).value = .ok all') :
    ∃ all, ((issues text fields pageCap pageSize).run client s).value = .ok all ∧ all <+: all' ∧
      (issues text fields pageCap pageSize).exchanges client s <+:
        (issues text fields pageCap' pageSize).exchanges client s := by
  have ⟨cap, he⟩ := exists_toNat_pageCap pageCap
  have ⟨cap', he'⟩ := exists_toNat_pageCap pageCap'
  rw [exchanges_issues, he'] at hs
  rw [value_issues, he'] at h
  rw [value_issues, exchanges_issues, exchanges_issues, he, he']
  cases hv : ((entries ⟨text, fields.eraseDups, max 1 pageSize⟩ (cap' + 1)).run client s).value
  case error => rw [hv] at h; cases h
  case ok found' =>
    rw [hv] at h
    have hl : cap ≤ cap' := by omega
    have ⟨found, hf, hp, hx⟩ := entries_prefix hl hs hv
    have ⟨all, hm, ha⟩ := mapM_prefix hp h
    exact ⟨all, by rw [hf]; exact hm, ha, hx⟩

end Retrieval

namespace Script

variable {script : Script}

def Serves (script : Script) : Prop :=
  ∀ message, .error (.unavailable message) ∉ script.enhanced

-- There are no cursors, and the first call is told so, or no call is told so.
def Settled (script : Script) : Prop :=
  (∃ message rest, script.enhanced = .error (.unavailable message) :: rest) ∨ script.Serves

theorem Serves.answer (h : script.Serves) (call : Call) : (script.answer call).2.Serves ∧
    (call.isLegacy = false → ∀ message, (script.answer call).1 ≠ .error (.unavailable message)) := by
  have ⟨enhanced, legacy⟩ := script
  cases call with
  | legacy =>
    refine ⟨?_, nofun⟩
    cases legacy <;> exact h
  | enhanced =>
    cases enhanced with
    | nil => exact ⟨h, fun _ _ => nofun⟩
    | cons reply rest =>
      refine ⟨fun m hm => h m (List.mem_cons_of_mem _ hm), fun _ m hm => ?_⟩
      exact h m (List.mem_cons.mpr (.inl hm.symm))

theorem Serves.exchanges {α : Type} {d : Dialogue α} (h : script.Serves) :
    ∀ x ∈ d.exchanges client script, x.call.isLegacy = false →
      ∀ message, x.reply ≠ .error (.unavailable message) := by
  induction d generalizing script with
  | done => simp
  | tell _ _ ih => exact ih h
  | ask call next ih => exact List.forall_mem_cons.mpr ⟨(h.answer call).2, ih _ (h.answer call).1⟩

theorem Settled.settled_entries {q : Query} {cap : Nat} (h : script.Settled) :
    Exchange.Settled ((Retrieval.entries q (cap + 1)).exchanges client script) := by
  cases h with
  | inl h =>
    have ⟨message, rest, he⟩ := h
    refine .inl ⟨message, ?_⟩
    rw [Retrieval.head?_exchanges_entries]
    simp [client, answer, Paging.cursor, he]
  | inr h => exact .inr h.exchanges

end Script
end RelatedIssues
