import RelatedIssues.Proofs.Request.Blank
import RelatedIssues.Proofs.Search.Lines
import RelatedIssues.Resolution.Resolve

namespace RelatedIssues

-- No reading of a clock lies before the first one.
def Clock.RunsForward (clock : Clock) : Prop :=
  ∀ i, ∃ n : Nat, milliseconds (clock.reading 0) (clock.reading i) = .ok (n : Int)

theorem Clock.RunsForward.elapsed_eq {clock : Clock} (h : clock.RunsForward) (i : Nat) :
    ∃ n, clock.elapsed i = .ok n := by
  have ⟨n, hn⟩ := h i
  exact ⟨n, by simp [elapsed, hn, bind, Except.bind]⟩

theorem Clock.runsForward_of_still : RunsForward ⟨fun _ => .zero⟩ :=
  have hm : milliseconds .zero .zero = .ok 0 := by decide +kernel
  fun _ => ⟨0, hm⟩

namespace Resolution

-- The keys that issues lead to, as far as they are kept.
def keptKeys (maxKeys : Nat) (request : Request) (issues : List Issue) : List String :=
  (extractKeys issues request.relation request.filter).take maxKeys

-- The result where nothing was asked for.
def ofBlank (request : Request) (elapsed : Nat) : Resolution where
  clause   := Clause.matchNothing
  relation := some request.relation
  elapsed  := elapsed

-- The result of a failure.
def ofFailure (f : Failure) (elapsed : Nat) : Resolution where
  clause  := Clause.matchNothing
  elapsed := elapsed
  error   := some f.describe

-- The result for issues that have been retrieved.
def ofIssues (maxKeys : Nat) (negated : Bool) (request : Request) (issues : List Issue)
    (elapsed : Nat) : Resolution where
  clause   := Clause.build (keptKeys maxKeys request issues) negated
  relation := some request.relation
  filter   := request.filter
  seeds    := issues.length
  keys     := (keptKeys maxKeys request issues).length
  elapsed  := elapsed

-- What the log is told at last of issues that have been retrieved. A warning comes last if keys have
-- been left out.
def report (maxKeys : Nat) (request : Request) (issues : List Issue) (elapsed : Nat) : List Event :=
  let found := (extractKeys issues request.relation request.filter).length
  let kept := (keptKeys maxKeys request issues).length
  .resolved elapsed request.relation issues.length kept request.filter ::
    if kept < found then [.capped kept found] else []

-- The exchanges and the events of a resolution that has a result. It breaks off because of the
-- exchanges, or because of the clock after any of them.
inductive Ends (clock : Clock) (settings : Settings) (negated : Bool) (request : Request) :
    List Exchange → List Event → Resolution → Prop
  | blank {elapsed : Nat} (query : request.query = "") :
    Ends clock settings negated request [] [.noQuery] (ofBlank request elapsed)
  | broken {elapsed : Nat} (query : request.query ≠ "") (broken : Exchange.Broken xs) :
    Ends clock settings negated request xs (es ++ [.failed f]) (ofFailure f elapsed)
  | untimed {elapsed : Nat} (time : clock.elapsed 1 = .error f) :
    Ends clock settings negated request xs (es ++ [.failed f]) (ofFailure f elapsed)
  | resolved {elapsed : Nat} (query : request.query ≠ "") (sound : ¬Exchange.Broken xs)
      (read : (Exchange.found xs).mapM Issue.ofJson = .ok issues)
      (untagged : ∀ e ∈ es, e.isTagged = false) :
    Ends clock settings negated request xs (es ++ report settings.maxKeys request issues elapsed)
      (ofIssues settings.maxKeys negated request issues elapsed)

variable {σ : Type} {client : Client σ} {s : σ} {clock : Clock} {settings : Settings} {negated : Bool}
  {request : Request} {issues : List Issue} {maxKeys elapsed : Nat} {r : Resolution} {f : Failure}
  {i : Nat}

theorem run_giveUp : (giveUp clock i f).run client s =
    ⟨[], [.failed f], s, (clock.elapsed i).map (ofFailure f)⟩ :=
  rfl

theorem run_blank (h : clock.elapsed 1 = .ok elapsed) : (blank clock request).run client s =
    ⟨[], [.noQuery], s, .ok (ofBlank request elapsed)⟩ := by
  simp only [blank, h]
  rfl

theorem run_blank_untimed (h : clock.elapsed 1 = .error f) : (blank clock request).run client s =
    ⟨[], [.noQuery, .failed f], s, (clock.elapsed 2).map (ofFailure f)⟩ := by
  simp only [blank, h]
  rfl

theorem run_conclude (h : clock.elapsed 1 = .ok elapsed) :
    (conclude clock maxKeys negated request issues).run client s =
      ⟨[], report maxKeys request issues elapsed, s,
        .ok (ofIssues maxKeys negated request issues elapsed)⟩ := by
  rw [conclude, h, report]
  by_cases hl : (keptKeys maxKeys request issues).length <
    (extractKeys issues request.relation request.filter).length
  case pos =>
    simp only [if_pos hl]
    rw [if_pos (by exact hl)]
    rfl
  case neg =>
    simp only [if_neg hl]
    rw [if_neg (by exact hl)]
    rfl

theorem run_conclude_untimed (h : clock.elapsed 1 = .error f) :
    (conclude clock maxKeys negated request issues).run client s =
      ⟨[], [.failed f], s, (clock.elapsed 2).map (ofFailure f)⟩ := by
  simp only [conclude, h]
  rfl

-- On a clock that gives the time, what comes after the retrieval of the issues is told by what it came to.
theorem run_ofRequest (hc : clock.elapsed 1 = .ok elapsed) (hq : request.query ≠ "") :
    (ofRequest clock settings negated request).run client s =
      let r := (retrieval settings request).run client s
      match r.value with
      | .error f => ⟨r.calls, r.events ++ [.failed f], r.state, .ok (ofFailure f elapsed)⟩
      | .ok issues => ⟨r.calls, r.events ++ report settings.maxKeys request issues elapsed, r.state,
          .ok (ofIssues settings.maxKeys negated request issues elapsed)⟩ := by
  rw [ofRequest, if_neg hq, Dialogue.run_bind]
  cases hv : ((retrieval settings request).run client s).value with
  | error f => simp [hv, run_giveUp, hc, Except.map]
  | ok issues => simp [hv, run_conclude hc]

theorem value_ofRequest_of_blank (hc : clock.elapsed 1 = .ok elapsed) (hq : request.query = "") :
    ((ofRequest clock settings negated request).run client s).value =
      .ok (ofBlank request elapsed) := by
  rw [ofRequest, if_pos hq, run_blank hc]

theorem value_ofRequest_of_issues (hc : clock.elapsed 1 = .ok elapsed) (hq : request.query ≠ "")
    (h : ((retrieval settings request).run client s).value = .ok issues) :
    ((ofRequest clock settings negated request).run client s).value =
      .ok (ofIssues settings.maxKeys negated request issues elapsed) := by
  simp only [run_ofRequest hc hq, h]

theorem value_ofRequest_of_failure (hc : clock.elapsed 1 = .ok elapsed) (hq : request.query ≠ "")
    (h : ((retrieval settings request).run client s).value = .error f) :
    ((ofRequest clock settings negated request).run client s).value = .ok (ofFailure f elapsed) := by
  simp only [run_ofRequest hc hq, h]

-- Nothing but the retrieval of the issues calls the service.
theorem exchanges_giveUp : (giveUp clock i f).exchanges client s = [] :=
  rfl

theorem exchanges_blank : (blank clock request).exchanges client s = [] := by
  cases h : clock.elapsed 1
  case error => exact Dialogue.exchanges_eq_nil (by rw [run_blank_untimed h])
  case ok => exact Dialogue.exchanges_eq_nil (by rw [run_blank h])

theorem exchanges_conclude :
    (conclude clock maxKeys negated request issues).exchanges client s = [] := by
  cases h : clock.elapsed 1
  case error => exact Dialogue.exchanges_eq_nil (by rw [run_conclude_untimed h])
  case ok => exact Dialogue.exchanges_eq_nil (by rw [run_conclude h])

theorem exchanges_ofRequest :
    (ofRequest clock settings negated request).exchanges client s =
      if request.query = "" then [] else (retrieval settings request).exchanges client s := by
  unfold ofRequest
  split
  case isTrue => exact exchanges_blank
  case isFalse =>
    rw [Dialogue.exchanges_bind, List.append_right_eq_self]
    split
    case h_1 => exact exchanges_giveUp
    case h_2 => exact exchanges_conclude

theorem query_eq_of_ofRequest :
    ∀ x ∈ (ofRequest clock settings negated request).exchanges client s,
      x.call.query = request.query := by
  rw [exchanges_ofRequest]
  split
  case isTrue => simp
  case isFalse => exact Retrieval.query_eq_of_issues

theorem exchanges_ofRequest_eq_nil_iff :
    (ofRequest clock settings negated request).exchanges client s = [] ↔ request.query = "" := by
  rw [exchanges_ofRequest]
  split
  case isTrue h => simp [h]
  case isFalse h => simpa [h, retrieval] using Retrieval.exchanges_issues_ne_nil

theorem exists_elapsed (h : (clock.elapsed i).map (ofFailure f) = .ok r) :
    ∃ elapsed, r = ofFailure f elapsed := by
  cases he : clock.elapsed i <;> rw [he] at h <;> cases h
  exact ⟨_, rfl⟩

-- Without the time there is no success.
theorem error_ne_none_of_untimed (hc : clock.elapsed 1 = .error f)
    (h : ((ofRequest clock settings negated request).run client s).value = .ok r) : r.error ≠ none := by
  have hr : ∃ i f, (clock.elapsed i).map (ofFailure f) = .ok r := by
    rw [ofRequest] at h
    split at h
    case isTrue => exact ⟨2, f, by rwa [run_blank_untimed hc] at h⟩
    case isFalse =>
      rw [Dialogue.value_run_bind] at h
      split at h
      case h_1 f' _ => exact ⟨1, f', h⟩
      case h_2 => exact ⟨2, f, by rwa [run_conclude_untimed hc] at h⟩
  have ⟨i, f', hi⟩ := hr
  have ⟨elapsed, he⟩ := exists_elapsed hi
  simp [he, ofFailure]

theorem ends_blank (hq : request.query = "")
    (h : ((blank clock request).run client s).value = .ok r) :
    Ends clock settings negated request [] ((blank clock request).run client s).events r := by
  cases he : clock.elapsed 1
  case error f =>
    rw [run_blank_untimed he] at h ⊢
    have ⟨elapsed, hr⟩ := exists_elapsed h
    change Ends _ _ _ _ _ ([.noQuery] ++ [.failed f]) r
    exact hr ▸ .untimed he
  case ok elapsed =>
    rw [run_blank he] at h ⊢
    cases h
    exact .blank hq

theorem ends_conclude {xs : List Exchange} {es : List Event} (hq : request.query ≠ "")
    (hb : ¬Exchange.Broken xs) (hm : (Exchange.found xs).mapM Issue.ofJson = .ok issues)
    (hu : ∀ e ∈ es, e.isTagged = false)
    (h : ((conclude clock settings.maxKeys negated request issues).run client s).value = .ok r) :
    Ends clock settings negated request xs
      (es ++ ((conclude clock settings.maxKeys negated request issues).run client s).events) r := by
  cases he : clock.elapsed 1
  case error f =>
    rw [run_conclude_untimed he] at h ⊢
    have ⟨elapsed, hr⟩ := exists_elapsed h
    exact hr ▸ .untimed he
  case ok elapsed =>
    rw [run_conclude he] at h ⊢
    cases h
    exact .resolved hq hb hm hu

-- A resolution that has a result has one of the four endings.
theorem ends_ofRequest (h : ((ofRequest clock settings negated request).run client s).value = .ok r) :
    Ends clock settings negated request
      ((ofRequest clock settings negated request).exchanges client s)
      ((ofRequest clock settings negated request).run client s).events r := by
  rw [exchanges_ofRequest]
  unfold ofRequest at h ⊢
  by_cases hq : request.query = ""
  case pos =>
    rw [if_pos hq] at h
    rw [if_pos hq, if_pos hq]
    exact ends_blank hq h
  case neg =>
    rw [if_neg hq, Dialogue.run_bind] at h
    rw [if_neg hq, if_neg hq, Dialogue.run_bind]
    cases hv : ((retrieval settings request).run client s).value
    case error f =>
      simp only [hv] at h ⊢
      have ⟨elapsed, hr⟩ := exists_elapsed h
      exact hr ▸ .broken hq (Retrieval.of_issues_error hv)
    case ok issues =>
      have ⟨hm, hb⟩ := Retrieval.of_issues_ok hv
      simp only [hv] at h ⊢
      exact ends_conclude hq hb hm Retrieval.tells_issues.untagged h

-- Only the clock can leave a resolution without a result.
theorem exists_value_ofRequest (settings : Settings) (negated : Bool) (request : Request)
    (client : Client σ) (s : σ) (h : clock.RunsForward) :
    ∃ r, ((ofRequest clock settings negated request).run client s).value = .ok r := by
  have ⟨elapsed, he⟩ := h.elapsed_eq 1
  unfold ofRequest
  split
  case isTrue => exact ⟨_, by rw [run_blank he]⟩
  case isFalse =>
    simp only [Dialogue.run_bind]
    split
    case h_1 f _ => exact ⟨ofFailure f elapsed, by rw [run_giveUp, he]; rfl⟩
    case h_2 => exact ⟨_, by rw [run_conclude he]⟩

end Resolution
end RelatedIssues
