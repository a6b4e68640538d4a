import RelatedIssues.Proofs.Resolution.Correctness
import RelatedIssues.Proofs.Resolution.FailClosed

namespace RelatedIssues

-- The lines that tell the outcome of a resolution.
def Event.isOutcome : Event → Bool
  | noQuery | resolved .. | failed _ => true
  | _ => false

namespace Resolution

-- What the line of the outcome says, and how grave it is.
inductive Says (settings : Settings) (i : Invocation) (xs : List Exchange) (r : Resolution) :
    Severity → String → Prop
  | blank (argument : i.IsBlank) : Says settings i xs r .warning "No inner JQL provided."
  | failed {f : Failure} (error : r.error = some f.describe) :
    Says settings i xs r .error ("Resolver error: " ++ f.message)
  | resolved {m : Relation} (success : IsSuccess settings i xs r) (relation : r.relation = some m) :
    Says settings i xs r .info
      ("Done in " ++ toString r.elapsed ++ "ms; mode=" ++ m.word ++ "; seeds=" ++ toString r.seeds ++
        "; resultKeys=" ++ toString r.keys ++ "; filter=" ++ (Json.ofOption LinkFilter.toJson r.filter).display)

-- Lines that are the account of a result.
structure IsAccount (settings : Settings) (i : Invocation) (xs : List Exchange) (r : Resolution)
    (es : List Event) : Prop where
  -- One line tells the outcome. No other line is for an outcome or for an error.
  outcome : ∃ before line after, es = before ++ line :: after ∧
    line.isOutcome ∧ Says settings i xs r line.severity line.text ∧
    (∀ e ∈ before ++ after, ¬e.isOutcome ∧ e.severity ≠ .error) ∧ .fellBack ∉ after
  blank    : .noQuery ∈ es ↔ i.IsBlank
  failed   : (∃ f, .failed f ∈ es) ↔ r.error ≠ none
  resolved : ∀ elapsed relation seeds keys filter, .resolved elapsed relation seeds keys filter ∈ es ↔
    IsSuccess settings i xs r ∧ r.elapsed = elapsed ∧ r.relation = some relation ∧ r.seeds = seeds ∧
      r.keys = keys ∧ r.filter = filter
  -- A search that starts again by offset is told of once.
  fallback : .fellBack ∈ es ↔ ∃ x ∈ xs, x.call.isLegacy
  once     : es.count .fellBack ≤ 1
  -- Keys that are left out are told of last, right after the outcome.
  capped   : ∀ kept found, .capped kept found ∈ es ↔
    IsSuccess settings i xs r ∧ kept = r.keys ∧ kept < found ∧
      ∃ issues, (Exchange.found xs).mapM Issue.ofJson = .ok issues ∧
        let request := Request.parse i.argument
        found = (extractKeys issues request.relation request.filter).length
  limit    : ∀ kept found, .capped kept found ∈ es → kept = settings.maxKeys
  late     : ∀ kept found, .capped kept found ∈ es → ∃ elapsed relation seeds keys filter,
    [.resolved elapsed relation seeds keys filter, .capped kept found] <:+ es
  -- An error is the last line.
  last     : ∀ e ∈ es.dropLast, e.severity ≠ .error

end Resolution

namespace Retrieval.Tells

variable {xs : List Exchange} {es tail : List Event} {e : Event}

theorem not_isOutcome (h : Tells xs es) (he : e ∈ es) : ¬e.isOutcome ∧ e.severity ≠ .error := by
  rcases h.cases_of_mem he with hd | rfl
  case inl => cases e <;> simp_all [Event.isOutcome, Event.severity]
  case inr => simp [Event.isOutcome, Event.severity]

-- The lines of a retrieval can be told from the others.
theorem mem_append_iff (h : Tells xs es) (ht : e.isTagged) : e ∈ es ++ tail ↔ e ∈ tail := by
  have hn : e ∉ es := fun he => Bool.false_ne_true ((h.untagged e he).symm.trans ht)
  rw [List.mem_append, or_iff_right hn]

theorem fellBack_mem_append_iff (h : Tells xs es) (ht : .fellBack ∉ tail) :
    .fellBack ∈ es ++ tail ↔ ∃ x ∈ xs, x.call.isLegacy := by
  rw [List.mem_append, or_iff_left ht, h.fellBack_mem_iff]

theorem count_append_le (h : Tells xs es) (ht : .fellBack ∉ tail) : (es ++ tail).count .fellBack ≤ 1 := by
  rw [List.count_append, List.count_eq_zero.mpr ht, h.count_fellBack]
  split <;> simp

end Retrieval.Tells

namespace Resolution

variable {σ : Type} {clock : Clock} {settings : Settings} {i : Invocation} {xs : List Exchange} {es : List Event}
  {request : Request} {issues : List Issue} {elapsed : Nat} {f : Failure}

theorem isAccount_ofBlank (hi : i.IsBlank) :
    IsAccount settings i [] (ofBlank request elapsed) [.noQuery] where
  outcome := ⟨[], .noQuery, [], rfl, rfl, .blank hi, by simp, by simp⟩
  blank := by simp [hi]
  failed := by simp [ofBlank]
  resolved := by simpa using fun _ _ _ _ _ hs => absurd hi hs.argument
  fallback := by simp
  once := by simp
  capped := by simpa using fun _ _ hs => absurd hi hs.argument
  limit := by simp
  late := by simp
  last := by simp

theorem isAccount_ofFailure (hf : IsFailure i xs (ofFailure f elapsed)) (ht : Retrieval.Tells xs es) :
    IsAccount settings i xs (ofFailure f elapsed) (es ++ [.failed f]) where
  outcome := ⟨es, .failed f, [], rfl, rfl, .failed rfl, by simpa using fun _ => ht.not_isOutcome, by simp⟩
  blank := by simpa [ht.mem_append_iff (e := .noQuery) rfl] using hf.argument
  failed := by simp [ofFailure]
  resolved elapsed' relation seeds keys filter := by
    rw [ht.mem_append_iff rfl]
    simpa using fun hs : IsSuccess settings i xs _ => absurd hs hf.not_isSuccess
  fallback := ht.fellBack_mem_append_iff (by simp)
  once := ht.count_append_le (by simp)
  capped kept found := by
    rw [ht.mem_append_iff rfl]
    simpa using fun hs : IsSuccess settings i xs _ => absurd hs hf.not_isSuccess
  limit kept found h := by simp [ht.mem_append_iff (e := .capped kept found) rfl] at h
  late kept found h := by simp [ht.mem_append_iff (e := .capped kept found) rfl] at h
  last := by simpa using fun _ he => (ht.not_isOutcome he).2

-- What is told of issues that have been retrieved: the outcome, and then that keys are left out, if any are.
theorem exists_report_eq (maxKeys : Nat) (request : Request) (issues : List Issue) (elapsed : Nat) : ∃ after,
    report maxKeys request issues elapsed = .resolved elapsed request.relation issues.length
      (keptKeys maxKeys request issues).length request.filter :: after ∧
    (after = [] ∨ ∃ kept found, after = [.capped kept found]) := by
  refine ⟨_, rfl, ?_⟩
  split
  case isTrue => exact .inr ⟨_, _, rfl⟩
  case isFalse => exact .inl rfl

-- So many keys are kept as there are, unless these are more than may be kept.
theorem capped_mem_report_iff_of_kept {maxKeys kept found : Nat} :
    .capped kept found ∈ report maxKeys request issues elapsed ↔
      kept = (keptKeys maxKeys request issues).length ∧ kept < found ∧
        found = (extractKeys issues request.relation request.filter).length := by
  rw [capped_mem_report_iff, keptKeys, List.length_take]
  omega

theorem isAccount_ofIssues (hm : (Exchange.found xs).mapM Issue.ofJson = .ok issues)
    (hs : IsSuccess settings i xs
      (ofIssues settings.maxKeys i.negates (Request.parse i.argument) issues elapsed))
    (ht : Retrieval.Tells xs es) :
    IsAccount settings i xs (ofIssues settings.maxKeys i.negates (Request.parse i.argument) issues elapsed)
      (es ++ report settings.maxKeys (Request.parse i.argument) issues elapsed) := by
  have hcapped := @capped_mem_report_iff_of_kept (Request.parse i.argument) issues elapsed settings.maxKeys
  have hlimit := @capped_mem_report_iff (Request.parse i.argument) issues settings.maxKeys elapsed
  obtain ⟨after, hr, ha⟩ := exists_report_eq settings.maxKeys (Request.parse i.argument) issues elapsed
  have hafter : ∀ e ∈ after, ¬e.isOutcome ∧ e.severity ≠ .error := by
    rcases ha with rfl | ⟨_, _, rfl⟩ <;> simp [Event.isOutcome, Event.severity]
  have hfell : .fellBack ∉ after := by rcases ha with rfl | ⟨_, _, rfl⟩ <;> simp
  have hout : ∀ e : Event, e.isOutcome → e ∉ after := fun e ho he => (hafter e he).1 ho
  rw [hr] at hcapped hlimit ⊢
  exact {
    outcome := ⟨es, _, after, rfl, rfl, .resolved hs rfl,
      List.forall_mem_append.mpr ⟨fun _ => ht.not_isOutcome, hafter⟩, hfell⟩
    blank := by simp [ht.mem_append_iff (e := .noQuery) rfl, hout .noQuery rfl, hs.argument]
    failed := by simp [ht.mem_append_iff (e := .failed _) rfl, hout (.failed _) rfl, ofIssues]
    resolved := fun elapsed' relation seeds keys filter => by
      rw [ht.mem_append_iff rfl, and_iff_right hs]
      simp [hout (.resolved ..) rfl, ofIssues, eq_comm]
    fallback := ht.fellBack_mem_append_iff (by simp [hfell])
    once := ht.count_append_le (by simp [hfell])
    capped := fun kept found => by
      rw [ht.mem_append_iff rfl, hcapped, and_iff_right hs]
      simp only [hm, Except.ok.injEq, exists_eq_left', ofIssues]
    limit := fun kept found he => by
      rw [ht.mem_append_iff rfl, hlimit] at he
      exact he.1
    late := fun kept found he => by
      rw [ht.mem_append_iff rfl] at he
      rcases ha with rfl | ⟨_, _, rfl⟩
      case inl => simp at he
      case inr =>
        obtain ⟨rfl, rfl⟩ := by simpa using he
        exact ⟨_, _, _, _, _, es, rfl⟩
    last := fun e he => by
      rcases List.mem_append.mp (List.mem_of_mem_dropLast he) with he | he
      case inl => exact (ht.not_isOutcome he).2
      case inr =>
        cases he with
        | head => simp [Event.severity]
        | tail _ he => exact (hafter e he).2
  }

-- On a clock that runs forward, every resolution has a result and the log is an account of it, whatever the service
-- replies.
theorem log_accounts_for_result (clock : Clock) (settings : Settings) (i : Invocation) (client : Client σ) (s : σ)
    (hc : clock.RunsForward) :
    let resolution := resolve clock (.ok settings) i
    ∃ r, (resolution.run client s).value = .ok r ∧
      IsAccount settings i (resolution.exchanges client s) r (resolution.run client s).events := by
  intro resolution
  obtain ⟨r, hv, ho⟩ := exists_blank_or_failure_or_success settings i client s hc
  obtain ⟨elapsed, he⟩ := hc.elapsed_eq 1
  refine ⟨r, hv, ?_⟩
  simp only [resolution, resolve] at hv ho ⊢
  by_cases hq : (Request.parse i.argument).query = ""
  case pos =>
    rw [ofRequest, if_pos hq, run_blank he] at hv
    rw [ofRequest, if_pos hq, run_blank he, exchanges_blank]
    cases hv
    exact isAccount_ofBlank (Invocation.isBlank_iff.mpr hq)
  case neg =>
    have hi : ¬i.IsBlank := mt Invocation.isBlank_iff.mp hq
    have ht := @Retrieval.tells_issues σ client s (Request.parse i.argument).query Retrieval.defaultFields
      settings.pageCap settings.pageSize
    rw [exchanges_ofRequest, if_neg hq] at ho ⊢
    rw [run_ofRequest he hq] at hv ⊢
    cases hm : ((retrieval settings (Request.parse i.argument)).run client s).value with
    | error f =>
      simp only [hm] at hv ⊢
      cases hv
      rcases ho with hb | hf | hs
      case inl => exact absurd hb.argument hi
      case inr.inl => exact isAccount_ofFailure hf ht
      case inr.inr => cases hs.error
    | ok issues =>
      simp only [hm] at hv ⊢
      cases hv
      rcases ho with hb | hf | hs
      case inl => exact absurd hb.argument hi
      case inr.inl =>
        obtain ⟨_, he, _⟩ := hf.error
        cases he
      case inr.inr => exact isAccount_ofIssues (Retrieval.of_issues_ok hm).1 hs ht

-- A retrieval that starts again by offset, and keys of which one is left out. Three lines are for more than a page.
theorem log_accounts_for_result_after_fallback :
    let clock : Clock := ⟨fun _ => .zero⟩
    let i : Invocation := { arguments := ["subtask: project = A"] }
    let issue : Json := .obj [("fields", .obj [
      ("subtasks", .arr [.obj [("key", .str "A-2")], .obj [("key", .str "A-3")]])])]
    let script : Script :=
      { enhanced := [.error (.unavailable "gone")], legacy := [.ok (.obj [("issues", .arr [issue])])] }
    let resolution := resolve clock (.ok { maxKeys := 1 }) i
    let events := (resolution.run Script.client script).events
    clock.RunsForward ∧ ∃ r, (resolution.run Script.client script).value = .ok r ∧
      IsAccount { maxKeys := 1 } i (resolution.exchanges Script.client script) r events ∧
      (events.filter (·.severity ≠ .debug)).map (·.text) = [
        "Enhanced JQL search not available, falling back to legacy pagination",
        "Done in 0ms; mode=subtask; seeds=1; resultKeys=1; filter=None",
        "Result capped at 1 of 2 keys"] := by
  intro clock i issue script resolution events
  have hc : clock.RunsForward := Clock.runsForward_of_still
  have ⟨r, hv, ha⟩ := log_accounts_for_result clock { maxKeys := 1 } i Script.client script hc
  exact ⟨hc, r, hv, ha, by decide +kernel⟩

end Resolution
end RelatedIssues
