import RelatedIssues.Proofs.Search.Exchange

namespace RelatedIssues.Paging

-- The exchanges of a search for at most `left` pages from a place on, and what they come to: the
-- entries of the pages, or the failure of the last call.
inductive Reads (p : Paging κ) :
    κ → (left : Nat) → List Exchange → Except Failure (List Json) → Prop
  | capped : Reads p place 0 [] (.ok [])
  | failed : Reads p place (left + 1) [⟨p.call place, .error f⟩] (.error f)
  | last : p.next? place page = none →
    Reads p place (left + 1) [⟨p.call place, .ok page⟩] (.ok (Page.issues page))
  | next : p.next? place page = some place' → Reads p place' left xs r →
    Reads p place (left + 1) (⟨p.call place, .ok page⟩ :: xs) (r.map (Page.issues page ++ ·))

variable {κ σ : Type} {p : Paging κ} {place : κ} {left : Nat}

-- The entries of earlier pages stand before those that are read.
theorem reads_pages (client : Client σ) (s : σ) (page : Nat) (place : κ) (found : List Json)
    (left : Nat) :
    ∃ r, p.Reads place left ((p.pages page place found left).exchanges client s) r ∧
      ((p.pages page place found left).run client s).value = r.map (found ++ ·) := by
  induction left generalizing s page place found
  case zero => exact ⟨_, .capped, by simp [pages, Except.map]⟩
  case succ left ih =>
    have ⟨reply, s', ha⟩ : ∃ reply s', client.answer s (p.call place) = (reply, s') := ⟨_, _, rfl⟩
    rw [pages, Dialogue.exchanges_ask ha, Dialogue.value_run_ask ha]
    cases reply
    case error f => exact ⟨_, .failed, rfl⟩
    case ok data =>
      simp only [Dialogue.exchanges_tell, Dialogue.value_run_tell]
      cases hn : p.next? place data
      case none => exact ⟨_, .last hn, rfl⟩
      case some next =>
        have ⟨r, hr, hv⟩ := ih s' (page + 1) next (found ++ Page.issues data)
        refine ⟨_, .next hn hr, hv.trans ?_⟩
        cases r <;> simp [Except.map]

-- A search from its first page.
theorem reads_run (client : Client σ) (s : σ) (place : κ) (left : Nat) :
    p.Reads place left ((p.pages 0 place [] left).exchanges client s)
      ((p.pages 0 place [] left).run client s).value := by
  have ⟨r, hr, hv⟩ := reads_pages (p := p) client s 0 place [] left
  cases r <;> simp only [Except.map, List.nil_append] at hv <;> exact hv ▸ hr

-- Of a search by pages the log is told of each page.
theorem forall_mem_events {P : Event → Prop} (h : ∀ page k found, P (p.event page k found))
    (client : Client σ) (s : σ) (page : Nat) (place : κ) (found : List Json) (left : Nat) :
    ∀ e ∈ ((p.pages page place found left).run client s).events, P e := by
  induction left generalizing s page place found
  case zero => simp [pages]
  case succ left ih =>
    have ⟨reply, s', ha⟩ : ∃ reply s', client.answer s (p.call place) = (reply, s') := ⟨_, _, rfl⟩
    rw [pages, Dialogue.events_run_ask ha]
    cases reply
    case error => simp
    case ok data =>
      refine List.forall_mem_cons.mpr ⟨h .., ?_⟩
      split
      case h_1 => simp
      case h_2 next _ => exact ih s' (page + 1) next (found ++ Page.issues data)

namespace Reads

variable {xs : List Exchange} {x : Exchange} {r : Except Failure (List Json)} {f : Failure}

theorem ne_nil (h : p.Reads place (left + 1) xs r) : xs ≠ [] := by
  cases h <;> simp

-- No more pages are asked for than were left.
theorem length_le (h : p.Reads place left xs r) : xs.length ≤ left := by
  induction h <;> simp_all

theorem forall_call {P : Call → Prop} (h : p.Reads place left xs r) (hp : ∀ k, P (p.call k)) :
    ∀ x ∈ xs, P x.call := by
  induction h with
  | capped => simp
  | failed | last => simp [hp]
  | next _ _ ih => exact List.forall_mem_cons.mpr ⟨hp _, ih⟩

-- A search that succeeds has failed at no page, and it has kept the entries of all.
theorem eq_of_ok {found : List Json} (h : p.Reads place left xs (.ok found)) :
    found = xs.flatMap Exchange.entries ∧ ∀ x ∈ xs, ¬x.Failed := by
  generalize hr : Except.ok found = r at h
  induction h generalizing found
  case capped => cases hr; simp
  case failed => contradiction
  case last => cases hr; simp
  case next r _ _ ih =>
    cases r
    case error => contradiction
    case ok found' =>
      have ⟨hf, hx⟩ := ih rfl
      cases hr
      exact ⟨by simp [hf], List.forall_mem_cons.mpr ⟨Exchange.not_failed_ok, hx⟩⟩

-- A search that fails has failed at its last page only.
theorem eq_of_error (h : p.Reads place left xs (.error f)) :
    ∃ ys call, xs = ys ++ [⟨call, .error f⟩] ∧ ∀ y ∈ ys, ¬y.Failed := by
  generalize hr : Except.error f = r at h
  induction h
  case capped | last => contradiction
  case failed => cases hr; exact ⟨[], _, rfl, by simp⟩
  case next r _ _ ih =>
    cases r
    case ok => contradiction
    case error =>
      cases hr
      have ⟨ys, call, hx, hy⟩ := ih rfl
      refine ⟨_ :: ys, call, by rw [hx, List.cons_append], ?_⟩
      exact List.forall_mem_cons.mpr ⟨Exchange.not_failed_ok, hy⟩

end Reads
end RelatedIssues.Paging
