import RelatedIssues.Proofs.Search.Paging

namespace RelatedIssues.Retrieval

-- The exchanges of a retrieval, and what they come to. What a search by cursor has found before it
-- broke off is dropped.
inductive Retrieves (q : Query) (cap : Nat) : List Exchange → Except Failure (List Json) → Prop
  | byCursor (cursor : (Paging.cursor q).Reads none cap xs r)
      (served : ∀ message, r ≠ .error (.unavailable message)) :
    Retrieves q cap xs r
  | byOffset (cursor : (Paging.cursor q).Reads none cap xs (.error (.unavailable message)))
      (offset : (Paging.offset q).Reads 0 cap ys r) :
    Retrieves q cap (xs ++ ys) r

theorem retrieves_entries {σ : Type} (q : Query) (cap : Nat) (client : Client σ) (s : σ) :
    Retrieves q cap ((entries q cap).exchanges client s) ((entries q cap).run client s).value := by
  have hc := Paging.reads_run (p := .cursor q) client s none cap
  rw [entries, Dialogue.exchanges_bind, Dialogue.run_bind]
  simp only
  split
  case h_1 message hv =>
    rw [hv] at hc
    exact .byOffset hc (Paging.reads_run (p := .offset q) client _ 0 cap)
  case h_2 hu =>
    rw [Dialogue.exchanges_done, List.append_nil]
    exact .byCursor hc hu

section

variable {q : Query} {cap left : Nat} {token : Option String} {start : Int} {xs : List Exchange}
  {r : Except Failure (List Json)}

theorem enhanced_of_cursor (h : (Paging.cursor q).Reads token left xs r) :
    ∀ x ∈ xs, x.call.isLegacy = false :=
  h.forall_call (P := (·.isLegacy = false)) fun _ => rfl

theorem legacy_of_offset (h : (Paging.offset q).Reads start left xs r) :
    ∀ x ∈ xs, x.call.isLegacy = true :=
  h.forall_call (P := (·.isLegacy = true)) fun _ => rfl

-- Where the service has no cursors, this is the only failure of the search by cursor.
theorem not_fatal_of_unavailable {message : String}
    (h : (Paging.cursor q).Reads token left xs (.error (.unavailable message))) :
    ∀ x ∈ xs, ¬x.IsFatal := by
  have hl := enhanced_of_cursor h
  have ⟨ys, call, hx, hy⟩ := h.eq_of_error
  intro x hm hf
  cases List.mem_append.mp (hx ▸ hm) with
  | inl hm => exact hy x hm hf.failed
  | inr hm =>
    cases List.mem_singleton.mp hm
    have ⟨f, he, hn⟩ := hf
    cases hn with
    | inl hc => exact Bool.false_ne_true (hl _ ‹_› ▸ hc)
    | inr hu => exact hu message (Except.error.inj he).symm

end

namespace Retrieves

variable {q : Query} {cap : Nat} {xs : List Exchange} {r : Except Failure (List Json)}

theorem ne_nil (h : Retrieves q (cap + 1) xs r) : xs ≠ [] := by
  cases h with
  | byCursor hc => exact hc.ne_nil
  | byOffset hc => exact List.append_ne_nil_of_left_ne_nil hc.ne_nil _

theorem query_eq (h : Retrieves q cap xs r) : ∀ x ∈ xs, x.call.query = q.text := by
  cases h with
  | byCursor hc => exact hc.forall_call (P := (·.query = q.text)) fun _ => rfl
  | byOffset hc ho =>
    exact List.forall_mem_append.mpr
      ⟨hc.forall_call (P := (·.query = q.text)) fun _ => rfl,
        ho.forall_call (P := (·.query = q.text)) fun _ => rfl⟩

-- A retrieval that succeeds has met no failure but the one that it recovered from.
theorem eq_of_ok {found : List Json} (h : Retrieves q (cap + 1) xs (.ok found)) :
    found = Exchange.found xs ∧ ∀ x ∈ xs, ¬x.IsFatal := by
  cases h with
  | byCursor hc =>
    have ⟨hf, hx⟩ := hc.eq_of_ok
    rw [Exchange.found, Exchange.completing_of_enhanced (enhanced_of_cursor hc)]
    exact ⟨hf, fun x hm => mt Exchange.IsFatal.failed (hx x hm)⟩
  | byOffset hc ho =>
    have ⟨hf, hy⟩ := ho.eq_of_ok
    rw [Exchange.found,
      Exchange.completing_append (enhanced_of_cursor hc) (legacy_of_offset ho) ho.ne_nil]
    refine ⟨hf, List.forall_mem_append.mpr ⟨not_fatal_of_unavailable hc, ?_⟩⟩
    exact fun y hm => mt Exchange.IsFatal.failed (hy y hm)

-- A retrieval that fails has failed for good at its last call.
theorem exists_fatal {f : Failure} (h : Retrieves q cap xs (.error f)) :
    ∃ x ∈ xs, x.reply = .error f ∧ x.IsFatal := by
  cases h with
  | byCursor hc served =>
    have ⟨ys, call, hx, _⟩ := hc.eq_of_error
    have hu : ∀ message, f ≠ .unavailable message := fun m hf => served m (hf ▸ rfl)
    exact ⟨⟨call, .error f⟩, by simp [hx], rfl, f, rfl, .inr hu⟩
  | byOffset hc ho =>
    have ⟨ys, call, hx, _⟩ := ho.eq_of_error
    have hm : ⟨call, .error f⟩ ∈ ys ++ [⟨call, .error f⟩] := by simp
    have hl := legacy_of_offset ho _ (hx ▸ hm)
    exact ⟨⟨call, .error f⟩, by simp [hx], rfl, f, rfl, .inl hl⟩

end Retrieves

section

variable {α β ε : Type} {f : α → Except ε β} {l : List α}

theorem mapM_cons_eq {a : α} :
    (a :: l).mapM f = match f a with
      | .error e => .error e
      | .ok b => (l.mapM f).map (b :: ·) := by
  rw [List.mapM_cons]
  cases f a
  case error => rfl
  case ok => cases l.mapM f <;> rfl

theorem length_eq_of_mapM {bs : List β} (h : l.mapM f = .ok bs) : bs.length = l.length := by
  induction l generalizing bs
  case nil => cases h; rfl
  case cons a l ih =>
    rw [mapM_cons_eq] at h
    cases hf : f a <;> cases hl : l.mapM f <;> simp [hf, hl, Except.map] at h
    rw [← h, List.length_cons, List.length_cons, ih hl]

theorem forall_ok_of_mapM {bs : List β} (h : l.mapM f = .ok bs) : ∀ a ∈ l, ∃ b, f a = .ok b := by
  induction l generalizing bs
  case nil => simp
  case cons a l ih =>
    rw [mapM_cons_eq] at h
    cases hf : f a <;> cases hl : l.mapM f <;> simp [hf, hl, Except.map] at h
    exact List.forall_mem_cons.mpr ⟨⟨_, hf⟩, ih hl⟩

theorem exists_error_of_mapM {e : ε} (h : l.mapM f = .error e) : ∃ a ∈ l, f a = .error e := by
  induction l
  case nil => contradiction
  case cons a l ih =>
    rw [mapM_cons_eq] at h
    cases hf : f a
    case error => exact ⟨a, List.mem_cons_self, by simpa [hf] using h⟩
    case ok =>
      cases hl : l.mapM f <;> simp [hf, hl, Except.map] at h
      have ⟨a', hm, ha⟩ := ih (h ▸ hl)
      exact ⟨a', List.mem_cons_of_mem a hm, ha⟩

theorem exists_mapM_eq_ok (h : ∀ a ∈ l, ∃ b, f a = .ok b) : ∃ bs, l.mapM f = .ok bs := by
  cases hm : l.mapM f
  case ok bs => exact ⟨bs, rfl⟩
  case error e =>
    have ⟨a, ha, he⟩ := exists_error_of_mapM hm
    have ⟨b, hb⟩ := h a ha
    cases he.symm.trans hb

-- What can be told of each result can be told of what it came from.
theorem flatMap_eq_of_mapM {γ : Type} {bs : List β} {g : β → List γ} {h : α → List γ}
    (hm : l.mapM f = .ok bs) (hg : ∀ a b, f a = .ok b → g b = h a) : bs.flatMap g = l.flatMap h := by
  induction l generalizing bs
  case nil => cases hm; rfl
  case cons a l ih =>
    rw [mapM_cons_eq] at hm
    cases hf : f a <;> cases hl : l.mapM f <;> simp [hf, hl, Except.map] at hm
    rw [← hm, List.flatMap_cons, List.flatMap_cons, hg a _ hf, ih hl]

theorem getElem?_of_mapM {bs : List β} (h : l.mapM f = .ok bs) (k : Nat) :
    bs[k]? = l[k]?.bind fun a => (f a).toOption := by
  induction l generalizing bs k
  case nil => cases h; rfl
  case cons a l ih =>
    rw [mapM_cons_eq] at h
    cases hf : f a <;> cases hl : l.mapM f <;> simp [hf, hl, Except.map] at h
    cases h
    cases k
    case zero => simp [hf, Except.toOption]
    case succ k => simpa using ih hl k

end

section

variable {σ : Type} {client : Client σ} {s : σ} {text : String} {fields : List String}
  {pageCap pageSize : Int}

theorem exchanges_issues :
    (issues text fields pageCap pageSize).exchanges client s =
      (entries ⟨text, fields.eraseDups, max 1 pageSize⟩ (max 1 pageCap).toNat).exchanges client s := by
  rw [issues, Dialogue.map, Dialogue.exchanges_bind, Dialogue.exchanges_done, List.append_nil]

theorem value_issues :
    ((issues text fields pageCap pageSize).run client s).value =
      ((entries ⟨text, fields.eraseDups, max 1 pageSize⟩ (max 1 pageCap).toNat).run client s).value.bind
        (·.mapM Issue.ofJson) := by
  rw [issues, Dialogue.map, Dialogue.run_bind]
  rfl

-- A retrieval may read one page at least.
theorem exists_toNat_pageCap (pageCap : Int) : ∃ cap, (max 1 pageCap).toNat = cap + 1 :=
  ⟨(max 1 pageCap).toNat - 1, by omega⟩

theorem retrieves_issues (text : String) (fields : List String) (pageCap pageSize : Int)
    (client : Client σ) (s : σ) : ∃ cap r,
    Retrieves ⟨text, fields.eraseDups, max 1 pageSize⟩ (cap + 1)
      ((issues text fields pageCap pageSize).exchanges client s) r ∧
    ((issues text fields pageCap pageSize).run client s).value = r.bind (·.mapM Issue.ofJson) := by
  have ⟨cap, hc⟩ := exists_toNat_pageCap pageCap
  have h := retrieves_entries ⟨text, fields.eraseDups, max 1 pageSize⟩ (cap + 1) client s
  exact ⟨cap, _, by rw [exchanges_issues, hc]; exact h, by rw [value_issues, hc]⟩

theorem exchanges_issues_ne_nil : (issues text fields pageCap pageSize).exchanges client s ≠ [] :=
  have ⟨_, _, h, _⟩ := retrieves_issues text fields pageCap pageSize client s
  h.ne_nil

theorem query_eq_of_issues :
    ∀ x ∈ (issues text fields pageCap pageSize).exchanges client s, x.call.query = text :=
  have ⟨_, _, h, _⟩ := retrieves_issues text fields pageCap pageSize client s
  h.query_eq

-- A retrieval that comes to issues was not broken, and they are the entries that were found.
theorem of_issues_ok {found : List Issue}
    (h : ((issues text fields pageCap pageSize).run client s).value = .ok found) :
    let xs := (issues text fields pageCap pageSize).exchanges client s
    (Exchange.found xs).mapM Issue.ofJson = .ok found ∧ ¬Exchange.Broken xs := by
  have ⟨cap, r, hr, hv⟩ := retrieves_issues text fields pageCap pageSize client s
  rw [hv] at h
  cases r
  case error => contradiction
  case ok entries =>
    have ⟨he, hx⟩ := hr.eq_of_ok
    have hm : (Exchange.found _).mapM Issue.ofJson = .ok found := he ▸ h
    refine ⟨hm, fun hb => ?_⟩
    cases hb with
    | inl hb =>
      have ⟨x, hx', hf⟩ := hb
      exact hx x hx' hf
    | inr hb =>
      have ⟨entry, he, f, hf⟩ := hb
      have ⟨issue, ho⟩ := forall_ok_of_mapM hm entry he
      cases hf.symm.trans ho

-- A retrieval that fails was broken.
theorem of_issues_error {f : Failure}
    (h : ((issues text fields pageCap pageSize).run client s).value = .error f) :
    Exchange.Broken ((issues text fields pageCap pageSize).exchanges client s) := by
  have ⟨cap, r, hr, hv⟩ := retrieves_issues text fields pageCap pageSize client s
  rw [hv] at h
  cases r
  case error =>
    have ⟨x, hx, _, hf⟩ := hr.exists_fatal
    exact .inl ⟨x, hx, hf⟩
  case ok entries =>
    have ⟨entry, he, hf⟩ := exists_error_of_mapM h
    exact .inr ⟨entry, hr.eq_of_ok.1 ▸ he, f, hf⟩

end

end RelatedIssues.Retrieval
