import RelatedIssues.Proofs.Clause.RoundTrip
import RelatedIssues.Proofs.Resolution.Ending
import RelatedIssues.Search.Script

namespace RelatedIssues.Resolution

-- There was nothing to ask for, and nothing was asked.
structure IsBlank (i : Invocation) (xs : List Exchange) (r : Resolution) : Prop where
  argument : i.IsBlank
  silent   : xs = []
  clause   : r.clause = Clause.matchNothing
  error    : r.error = none
  seeds    : r.seeds = 0
  keys     : r.keys = 0

-- A call has failed for good, or an entry was not an issue. Whether the keys were to be excluded is not
-- looked at, and there is something to say about the failure even where it has no message.
structure IsFailure (i : Invocation) (xs : List Exchange) (r : Resolution) : Prop where
  argument : ¬i.IsBlank
  broken   : Exchange.Broken xs
  clause   : r.clause = Clause.matchNothing
  relation : r.relation = none
  filter   : r.filter = none
  seeds    : r.seeds = 0
  keys     : r.keys = 0
  error    : ∃ e, r.error = some e ∧ e ≠ ""

-- The clause is for the keys that the issues lead to, as far as they are kept. They are excluded under
-- every operator but one.
structure IsSuccess (settings : Settings) (i : Invocation) (xs : List Exchange) (r : Resolution) :
    Prop where
  argument : ¬i.IsBlank
  called   : xs ≠ []
  sound    : ¬Exchange.Broken xs
  error    : r.error = none
  clause   : ∃ issues, (Exchange.found xs).mapM Issue.ofJson = .ok issues ∧
    let kept := keptKeys settings.maxKeys (Request.parse i.argument) issues
    r.clause = Clause.build kept (decide (i.operator ≠ "in")) ∧ r.keys = kept.length

variable {settings : Settings} {i : Invocation} {xs : List Exchange} {es : List Event} {r : Resolution}
  {clock : Clock}

theorem IsBlank.not_isFailure (h : IsBlank i xs r) : ¬IsFailure i xs r :=
  fun hf => hf.argument h.argument

theorem IsBlank.not_isSuccess (h : IsBlank i xs r) : ¬IsSuccess settings i xs r :=
  fun hs => hs.argument h.argument

theorem IsFailure.not_isSuccess (h : IsFailure i xs r) : ¬IsSuccess settings i xs r :=
  fun hs => hs.sound h.broken

theorem Ends.blank_or_failure_or_success (hc : clock.RunsForward)
    (hx : xs = [] ↔ (Request.parse i.argument).query = "")
    (h : Ends clock settings i.negates (Request.parse i.argument) xs es r) :
    IsBlank i xs r ∨ IsFailure i xs r ∨ IsSuccess settings i xs r := by
  cases h with
  | blank hq => exact .inl ⟨Invocation.isBlank_iff.mpr hq, rfl, rfl, rfl, rfl, rfl⟩
  | broken hq hb =>
    have hi : ¬i.IsBlank := mt Invocation.isBlank_iff.mp hq
    exact .inr (.inl ⟨hi, hb, rfl, rfl, rfl, rfl, rfl, _, rfl, Failure.describe_ne_empty _⟩)
  | untimed ht =>
    have ⟨elapsed, he⟩ := hc.elapsed_eq 1
    cases ht.symm.trans he
  | resolved hq hs hm =>
    have hi : ¬i.IsBlank := mt Invocation.isBlank_iff.mp hq
    exact .inr (.inr ⟨hi, mt hx.mp hq, hs, rfl, _, hm, rfl, rfl⟩)

theorem exists_blank_or_failure_or_success {σ : Type} (settings : Settings) (i : Invocation) (client : Client σ)
    (s : σ) (hc : clock.RunsForward) :
    let xs := (resolve clock (.ok settings) i).exchanges client s
    ∃ r, ((resolve clock (.ok settings) i).run client s).value = .ok r ∧
      (IsBlank i xs r ∨ IsFailure i xs r ∨ IsSuccess settings i xs r) :=
  have ⟨r, hv⟩ := exists_value_ofRequest settings i.negates (Request.parse i.argument) client s hc
  ⟨r, hv, (ends_ofRequest hv).blank_or_failure_or_success hc exchanges_ofRequest_eq_nil_iff⟩

-- No result but that of a success that found no keys to exclude matches all issues.
theorem clause_eq_matchEverything_iff
    (h : IsBlank i xs r ∨ IsFailure i xs r ∨ IsSuccess settings i xs r) :
    r.clause = Clause.matchEverything ↔
      IsSuccess settings i xs r ∧ i.operator ≠ "in" ∧ r.keys = 0 := by
  have hn : Clause.matchNothing ≠ Clause.matchEverything := by decide
  rcases h with hb | hf | hs
  case inl => simp [hb.clause, hn, hb.not_isSuccess]
  case inr.inl => simp [hf.clause, hn, hf.not_isSuccess]
  case inr.inr =>
    have ⟨issues, _, hc, hk⟩ := hs.clause
    rw [hc, hk, Clause.build_eq_matchEverything_iff, decide_eq_true_iff, List.length_eq_zero_iff]
    simp [hs]

-- On a clock that runs forward, every resolution has a result, which is that of a blank argument, of a
-- failure or of a success, and of one of them only.
theorem resolve_fails_closed {σ : Type} (clock : Clock) (settings : Settings) (i : Invocation)
    (client : Client σ) (s : σ) (hc : clock.RunsForward) :
    let xs := (resolve clock (.ok settings) i).exchanges client s
    ∃ r, ((resolve clock (.ok settings) i).run client s).value = .ok r ∧
      (IsBlank i xs r ∨ IsFailure i xs r ∨ IsSuccess settings i xs r) ∧
      ¬(IsBlank i xs r ∧ IsFailure i xs r) ∧ ¬(IsBlank i xs r ∧ IsSuccess settings i xs r) ∧
      ¬(IsFailure i xs r ∧ IsSuccess settings i xs r) ∧
      (r.clause = Clause.matchEverything ↔
        IsSuccess settings i xs r ∧ i.operator ≠ "in" ∧ r.keys = 0) := by
  have ⟨r, hv⟩ := exists_value_ofRequest settings i.negates (Request.parse i.argument) client s hc
  have ho := (ends_ofRequest hv).blank_or_failure_or_success hc exchanges_ofRequest_eq_nil_iff
  exact ⟨r, hv, ho, fun ⟨hb, hf⟩ => hb.not_isFailure hf, fun ⟨hb, hs⟩ => hb.not_isSuccess hs,
    fun ⟨hf, hs⟩ => hf.not_isSuccess hs, clause_eq_matchEverything_iff ho⟩

-- A run that was to exclude the keys that it finds fails at its second page, and without a message.
theorem resolve_fails_closed_at_second_page :
    let clock : Clock := ⟨fun _ => .zero⟩
    let i : Invocation := { operator := "not in", arguments := ["project = A"] }
    let script : Script :=
      { enhanced := [.ok (.obj [("nextPageToken", .str "t")]), .error (.runtime "")] }
    clock.RunsForward ∧ ∃ r,
      ((resolve clock (.ok {}) i).run Script.client script).value = .ok r ∧
      IsFailure i ((resolve clock (.ok {}) i).exchanges Script.client script) r ∧
      r.error = some "RuntimeError" := by
  intro clock i script
  have hm : Clock.milliseconds .zero .zero = .ok 0 := by decide +kernel
  have hc : clock.RunsForward := fun _ => ⟨0, hm⟩
  have ⟨r, hv, ho, _⟩ := resolve_fails_closed clock {} i Script.client script hc
  have he : ((resolve clock (.ok {}) i).run Script.client script).value =
      .ok { clause := Clause.matchNothing, error := some "RuntimeError" } := by decide +kernel
  cases hv.symm.trans he
  rcases ho with hb | hf | hs
  case inl => cases hb.error
  case inr.inl => exact ⟨hc, _, hv, hf, rfl⟩
  case inr.inr => cases hs.error

end RelatedIssues.Resolution
