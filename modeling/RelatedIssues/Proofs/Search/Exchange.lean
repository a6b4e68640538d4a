import RelatedIssues.Search.Retrieval

namespace RelatedIssues

structure Exchange where
  call  : Call
  reply : Reply

namespace Exchange

-- The entries of the page that was replied; a failure has none.
def entries (x : Exchange) : List Json :=
  match x.reply with
  | .ok page => Page.issues page
  | .error _ => []

def Failed (x : Exchange) : Prop :=
  ∃ f, x.reply = .error f

-- A failure that nothing makes up for. Only a search by cursor that does not exist is made up for, by a
-- search by offset.
def IsFatal (x : Exchange) : Prop :=
  ∃ f, x.reply = .error f ∧ (x.call.isLegacy ∨ ∀ message, f ≠ .unavailable message)

-- The exchanges of the search that was the last one, which is by offset if there is any such call.
def completing (xs : List Exchange) : List Exchange :=
  if xs.any (·.call.isLegacy) then xs.filter (·.call.isLegacy) else xs

-- The entries that a retrieval has found, in the order of the calls.
def found (xs : List Exchange) : List Json :=
  (completing xs).flatMap entries

-- A retrieval comes to no issues if a call has failed for good, or if an entry is not an issue.
def Broken (xs : List Exchange) : Prop :=
  (∃ x ∈ xs, x.IsFatal) ∨ ∃ entry ∈ found xs, ∃ f, Issue.ofJson entry = .error f

variable {call : Call} {page : Json} {f : Failure} {x : Exchange} {xs ys : List Exchange}

@[simp]
theorem entries_ok : entries ⟨call, .ok page⟩ = Page.issues page :=
  rfl

@[simp]
theorem entries_error : entries ⟨call, .error f⟩ = [] :=
  rfl

@[simp]
theorem not_failed_ok : ¬Failed ⟨call, .ok page⟩ :=
  nofun

theorem IsFatal.failed (h : x.IsFatal) : x.Failed :=
  have ⟨f, hf, _⟩ := h
  ⟨f, hf⟩

theorem completing_of_enhanced (h : ∀ x ∈ xs, x.call.isLegacy = false) : completing xs = xs := by
  simp only [completing, List.any_eq_true]
  exact if_neg fun ⟨x, hx, hl⟩ => Bool.false_ne_true (h x hx ▸ hl)

theorem completing_append (hx : ∀ x ∈ xs, x.call.isLegacy = false)
    (hy : ∀ y ∈ ys, y.call.isLegacy = true) (hn : ys ≠ []) : completing (xs ++ ys) = ys := by
  have ⟨y, hm⟩ := List.exists_mem_of_ne_nil ys hn
  have ha : (xs ++ ys).any (·.call.isLegacy) = true :=
    List.any_eq_true.mpr ⟨y, List.mem_append_right xs hm, hy y hm⟩
  have hf : xs.filter (·.call.isLegacy) = [] := List.filter_eq_nil_iff.mpr fun x h => by simp [hx x h]
  have hg : ys.filter (·.call.isLegacy) = ys := List.filter_eq_self.mpr hy
  rw [completing, if_pos ha, List.filter_append, hf, hg, List.nil_append]

end Exchange

-- A client that answers as another one does, in states that go along with those of the other.
def Client.Follows {σ τ : Type} (client' : Client τ) (g : σ → τ) (client : Client σ) : Prop :=
  ∀ s call, client'.answer (g s) call = ((client.answer s call).1, g (client.answer s call).2)

namespace Dialogue

variable {α β σ : Type}

-- The exchanges of a dialogue with a client.
def exchanges (client : Client σ) (s : σ) : Dialogue α → List Exchange
  | done _ => []
  | tell _ rest => rest.exchanges client s
  | ask call next =>
    ⟨call, (client.answer s call).1⟩ ::
      (next (client.answer s call).1).exchanges client (client.answer s call).2

variable {client : Client σ} {s s' : σ} {d : Dialogue α} {f : α → Dialogue β} {call : Call}
  {reply : Reply} {next : Reply → Dialogue α}

@[simp]
theorem exchanges_done {a : α} : (done a).exchanges client s = [] :=
  rfl

@[simp]
theorem exchanges_tell {e : Event} : (tell e d).exchanges client s = d.exchanges client s :=
  rfl

theorem exchanges_ask (h : client.answer s call = (reply, s')) :
    (ask call next).exchanges client s = ⟨call, reply⟩ :: (next reply).exchanges client s' := by
  simp [exchanges, h]

theorem value_run_ask (h : client.answer s call = (reply, s')) :
    ((ask call next).run client s).value = ((next reply).run client s').value := by
  simp [run, h]

theorem events_run_ask (h : client.answer s call = (reply, s')) :
    ((ask call next).run client s).events = ((next reply).run client s').events := by
  simp [run, h]

theorem value_run_bind : ((d.bind f).run client s).value =
    ((f (d.run client s).value).run client (d.run client s).state).value := by
  rw [run_bind]

theorem exchanges_bind :
    (d.bind f).exchanges client s =
      d.exchanges client s ++
        (f (d.run client s).value).exchanges client (d.run client s).state := by
  induction d generalizing s
  case done => rfl
  case tell ih => simp [bind, ih]
  case ask ih => simp [bind, exchanges, run, ih]

theorem calls_eq_map_exchanges : (d.run client s).calls = (d.exchanges client s).map (·.call) := by
  induction d generalizing s
  case done => rfl
  case tell ih => simp [ih]
  case ask ih => simp [run, exchanges, ih]

-- What holds of every answer of a client holds of every exchange with it.
theorem forall_mem_exchanges {P : Call → Reply → Prop} (h : ∀ s call, P call (client.answer s call).1) :
    ∀ x ∈ d.exchanges client s, P x.call x.reply := by
  induction d generalizing s
  case done => simp
  case tell ih => exact ih
  case ask call next ih => exact List.forall_mem_cons.mpr ⟨h s call, ih _⟩

theorem exchanges_eq_nil (h : (d.run client s).calls = []) : d.exchanges client s = [] := by
  rw [calls_eq_map_exchanges] at h
  exact List.map_eq_nil_iff.mp h

section

variable {τ : Type} {client' : Client τ} {g : σ → τ}

end

end Dialogue
end RelatedIssues
