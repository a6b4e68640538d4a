import RelatedIssues.Proofs.Clause.Meaning
import RelatedIssues.Proofs.Resolution.Correctness

namespace RelatedIssues.Resolution

-- Two results that may differ in their clauses only.
structure SaysAlike (r r' : Resolution) : Prop where
  relation : r.relation = r'.relation
  filter   : r.filter = r'.filter
  seeds    : r.seeds = r'.seeds
  keys     : r.keys = r'.keys
  elapsed  : r.elapsed = r'.elapsed
  error    : r.error = r'.error

-- The results of an invocation after `in` and after an operator that negates. Both clauses are closed if there
-- is nothing to ask for or if the run has failed, and otherwise they divide the issues at the kept keys.
structure Mirrors (settings : Settings) (i : Invocation) (xs : List Exchange) (r r' : Resolution) :
    Prop where
  alike   : SaysAlike r r'
  closed  : i.IsBlank ∨ r.error ≠ none →
    r.clause = Clause.matchNothing ∧ r'.clause = Clause.matchNothing
  divided : ¬i.IsBlank → r.error = none → ∃ issues, (Exchange.found xs).mapM Issue.ofJson = .ok issues ∧
    Clause.Complements (keptKeys settings.maxKeys (Request.parse i.argument) issues) r.clause r'.clause

variable {σ : Type} {client : Client σ} {s : σ} {clock : Clock} {settings : Settings} {negated : Bool}
  {request : Request} {issues : List Issue} {i i' : Invocation} {maxKeys elapsed : Nat} {f : Failure}
  {xs : List Exchange}

theorem saysAlike_ofIssues : SaysAlike (ofIssues maxKeys false request issues elapsed)
    (ofIssues maxKeys true request issues elapsed) :=
  ⟨rfl, rfl, rfl, rfl, rfl, rfl⟩

theorem mirrors_ofBlank (h : i.IsBlank) :
    Mirrors settings i xs (ofBlank request elapsed) (ofBlank request elapsed) where
  alike := ⟨rfl, rfl, rfl, rfl, rfl, rfl⟩
  closed _ := ⟨rfl, rfl⟩
  divided hb := absurd h hb

theorem mirrors_ofFailure : Mirrors settings i xs (ofFailure f elapsed) (ofFailure f elapsed) where
  alike := ⟨rfl, rfl, rfl, rfl, rfl, rfl⟩
  closed _ := ⟨rfl, rfl⟩
  divided _ he := by cases he

theorem mirrors_ofIssues (hb : ¬i.IsBlank) (h : (Exchange.found xs).mapM Issue.ofJson = .ok issues) :
    Mirrors settings i xs (ofIssues settings.maxKeys false (Request.parse i.argument) issues elapsed)
      (ofIssues settings.maxKeys true (Request.parse i.argument) issues elapsed) where
  alike := saysAlike_ofIssues
  closed hf := by
    cases hf with
    | inl hi => exact absurd hi hb
    | inr he => exact absurd rfl he
  divided _ _ := ⟨issues, h, Clause.complements_build nodup_keptKeys⟩

-- Nothing but the clause of a success depends on the negation, so that both runs can be followed at once.
theorem mirrors_ofRequest (hc : clock.elapsed 1 = .ok elapsed) (client : Client σ) (s : σ) :
    let resolution negated := ofRequest clock settings negated (Request.parse i.argument)
    let run negated := (resolution negated).run client s
    (run false).calls = (run true).calls ∧ (run false).events = (run true).events ∧
    ∃ r r', (run false).value = .ok r ∧ (run true).value = .ok r' ∧
      Mirrors settings i ((resolution false).exchanges client s) r r' := by
  intro resolution run
  by_cases hq : (Request.parse i.argument).query = ""
  case pos =>
    have hb : i.IsBlank := Invocation.isBlank_iff.mpr hq
    have hr negated : run negated = (blank clock (Request.parse i.argument)).run client s := by
      simp only [run, resolution, ofRequest, if_pos hq]
    rw [hr, hr, run_blank hc]
    exact ⟨rfl, rfl, _, _, rfl, rfl, mirrors_ofBlank hb⟩
  case neg =>
    have hb : ¬i.IsBlank := mt Invocation.isBlank_iff.mp hq
    have hx : (resolution false).exchanges client s =
        (retrieval settings (Request.parse i.argument)).exchanges client s := by
      rw [exchanges_ofRequest, if_neg hq]
    simp only [run, resolution, run_ofRequest hc hq]
    cases hv : ((retrieval settings (Request.parse i.argument)).run client s).value with
    | error f => exact ⟨rfl, rfl, _, _, rfl, rfl, mirrors_ofFailure⟩
    | ok issues =>
      have hm := (Retrieval.of_issues_ok hv).1
      exact ⟨rfl, rfl, _, _, rfl, rfl, mirrors_ofIssues hb (hx ▸ hm)⟩

-- Every operator but one negates, and it makes no difference which of them does. The same calls are made as
-- without a negation, with the same result but for the clause, and of two clauses that come from keys each
-- issue meets exactly one. The one without a negation is met by the issues with these keys.
theorem negation_divides_issues {σ : Type} (clock : Clock) (settings : Settings) (arguments : List String)
    (client : Client σ) (s : σ) (hc : clock.RunsForward) :
    let resolution operator := resolve clock (.ok settings) { operator, arguments }
    let run operator := (resolution operator).run client s
    (∀ operator operator', operator ≠ "in" → operator' ≠ "in" → run operator = run operator') ∧
    ∀ operator, operator ≠ "in" →
      (run "in").calls = (run operator).calls ∧ (run "in").events = (run operator).events ∧
      ∃ r r', (run "in").value = .ok r ∧ (run operator).value = .ok r' ∧
        Mirrors settings { arguments } ((resolution "in").exchanges client s) r r' := by
  intro resolution run
  have hn operator (h : operator ≠ "in") :
      resolution operator = ofRequest clock settings true (Request.parse (arguments.headD "")) := by
    simp only [resolution, resolve, Invocation.negates, Invocation.argument, h, ne_eq, not_false_eq_true,
      decide_true]
  constructor
  case left =>
    intro operator operator' ho ho'
    simp only [run, hn operator ho, hn operator' ho']
  case right =>
    intro operator ho
    obtain ⟨elapsed, he⟩ := hc.elapsed_eq 1
    simp only [run, hn operator ho]
    exact mirrors_ofRequest (i := { arguments }) he client s

-- The key that is found holds a quote. Every other issue is met by the clause of `was not in`, and only by it.
theorem negation_divides_issues_at_quoted_key :
    let clock : Clock := ⟨fun _ => .zero⟩
    let issue : Json := .obj [("fields", .obj [("subtasks", .arr [.obj [("key", .str "A'1")]])])]
    let script : Script := { enhanced := [.ok (.obj [("issues", .arr [issue])])] }
    let run operator := (resolve clock (.ok {}) { operator, arguments := ["subtask: project = A"] }).run
      Script.client script
    clock.RunsForward ∧ run "!=" = run "was not in" ∧
    ∃ r r', (run "in").value = .ok r ∧ (run "was not in").value = .ok r' ∧ SaysAlike r r' ∧
      Clause.readKeys r'.clause = ["A'1"] ∧ Clause.meets r.clause "A'1" ∧
      ∀ key, key ≠ Clause.sentinel → key ≠ "A'1" →
        ¬Clause.meets r.clause key ∧ Clause.meets r'.clause key := by
  intro clock issue script run
  have hm : Clock.milliseconds .zero .zero = .ok 0 := by decide +kernel
  have hc : clock.RunsForward := fun _ => ⟨0, hm⟩
  have ⟨hsame, hdual⟩ :=
    negation_divides_issues clock {} ["subtask: project = A"] Script.client script hc
  have ⟨_, _, r, r', hr, hr', hmirrors⟩ := hdual "was not in" (by decide)
  have hv : (run "in").value = .ok {
      clause := "issuekey in ('A\\'1')", relation := some .subtask, seeds := 1, keys := 1 } := by
    decide +kernel
  cases hr.symm.trans hv
  have hi : ¬Invocation.IsBlank { arguments := ["subtask: project = A"] } :=
    mt Invocation.isBlank_iff.mp (by decide +kernel)
  have ⟨issues, _, hd⟩ := hmirrors.divided hi rfl
  have hk : keptKeys 1000 (Request.parse "subtask: project = A") issues = ["A'1"] :=
    hd.same_keys.1.symm.trans (by decide +kernel)
  have hd : Clause.Complements ["A'1"] _ r'.clause := hk ▸ hd
  refine ⟨hc, hsame _ _ (by decide) (by decide), _, r', hv, hr', hmirrors.alike, hd.same_keys.2, ?_, ?_⟩
  case refine_1 => exact (hd.chosen "A'1" (by decide)).mpr (List.mem_singleton_self _)
  case refine_2 =>
    intro key hs hn
    have hout : ¬Clause.meets _ key := fun hm => hn (List.mem_singleton.mp ((hd.chosen key hs).mp hm))
    exact ⟨hout, (hd.divided key hs).mpr hout⟩

end RelatedIssues.Resolution
