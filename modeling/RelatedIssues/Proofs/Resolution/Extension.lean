import RelatedIssues.Proofs.Extraction.Union
import RelatedIssues.Proofs.Resolution.Correctness
import RelatedIssues.Proofs.Search.Extension

namespace RelatedIssues

-- The caps of the second settings are no smaller, and the pages are of one size. What else the settings say
-- may differ.
structure Settings.RaisesCaps (settings settings' : Settings) : Prop where
  pageCap  : settings.pageCap ≤ settings'.pageCap
  maxKeys  : settings.maxKeys ≤ settings'.maxKeys
  pageSize : settings.pageSize = settings'.pageSize

-- A clock that tells how long a run took.
def Clock.Measures (clock : Clock) : Prop :=
  ∃ elapsed, clock.elapsed 1 = .ok elapsed

namespace Resolution

-- What one run found comes first in what the other one found: its exchanges, the issues that were read from
-- them, and the keys of the clause.
structure Extends (xs xs' : List Exchange) (r r' : Resolution) : Prop where
  exchanges : xs <+: xs'
  seeds     : ∃ issues issues', (Exchange.found xs).mapM Issue.ofJson = .ok issues ∧
    (Exchange.found xs').mapM Issue.ofJson = .ok issues' ∧ issues <+: issues' ∧
    r.seeds = issues.length ∧ r'.seeds = issues'.length
  keys      : Clause.readKeys r.clause <+: Clause.readKeys r'.clause

variable {σ : Type} {client : Client σ} {s : σ} {clock clock' : Clock} {settings settings' : Settings}
  {negated : Bool} {request : Request} {issues issues' : List Issue} {maxKeys maxKeys' elapsed elapsed' : Nat}
  {xs xs' : List Exchange} {r' : Resolution} {i : Invocation}

theorem keptKeys_prefix (h : issues <+: issues') (hk : maxKeys ≤ maxKeys') :
    keptKeys maxKeys request issues <+: keptKeys maxKeys' request issues' :=
  have hp := extractKeys_prefix h
  (hp.take maxKeys).trans (List.take_prefix_take_left hk)

theorem retrieval_prefix (hr : settings.RaisesCaps settings')
    (hs : Exchange.Settled ((retrieval settings' request).exchanges client s))
    (h : ((retrieval settings' request).run client s).value = .ok issues') :
    ∃ issues, ((retrieval settings request).run client s).value = .ok issues ∧ issues <+: issues' ∧
      (retrieval settings request).exchanges client s <+: (retrieval settings' request).exchanges client s := by
  rw [retrieval, ← hr.pageSize] at hs h
  rw [retrieval, retrieval, ← hr.pageSize]
  exact Retrieval.issues_prefix (Int.ofNat_le.mpr hr.pageCap) hs h

theorem extends_ofBlank : Extends [] [] (ofBlank request elapsed) (ofBlank request elapsed') where
  exchanges := List.prefix_rfl
  seeds := ⟨[], [], rfl, rfl, List.prefix_rfl, rfl, rfl⟩
  keys := List.prefix_rfl

theorem extends_ofIssues (hx : xs <+: xs') (hi : issues <+: issues') (hk : maxKeys ≤ maxKeys')
    (h : (Exchange.found xs).mapM Issue.ofJson = .ok issues)
    (h' : (Exchange.found xs').mapM Issue.ofJson = .ok issues') :
    Extends xs xs' (ofIssues maxKeys negated request issues elapsed)
      (ofIssues maxKeys' negated request issues' elapsed') where
  exchanges := hx
  seeds := ⟨issues, issues', h, h', hi, rfl, rfl⟩
  keys := by
    rw [readKeys_ofIssues, readKeys_ofIssues]
    exact keptKeys_prefix hi hk

theorem extends_ofRequest (hr : settings.RaisesCaps settings') (hc : clock'.Measures → clock.Measures)
    (hs : Exchange.Settled ((ofRequest clock' settings' negated request).exchanges client s))
    (hv : ((ofRequest clock' settings' negated request).run client s).value = .ok r')
    (he : r'.error = none) :
    ∃ r, ((ofRequest clock settings negated request).run client s).value = .ok r ∧ r.error = none ∧
      Extends ((ofRequest clock settings negated request).exchanges client s)
        ((ofRequest clock' settings' negated request).exchanges client s) r r' := by
  have ⟨elapsed', ht'⟩ : clock'.Measures := by
    cases ht' : clock'.elapsed 1
    case ok elapsed' => exact ⟨elapsed', ht'⟩
    case error => exact absurd he (error_ne_none_of_untimed ht' hv)
  have ⟨elapsed, ht⟩ := hc ⟨elapsed', ht'⟩
  rw [exchanges_ofRequest] at hs ⊢
  rw [exchanges_ofRequest]
  by_cases hq : request.query = ""
  case pos =>
    rw [if_pos hq, if_pos hq]
    cases hv.symm.trans (value_ofRequest_of_blank ht' hq)
    exact ⟨_, value_ofRequest_of_blank ht hq, rfl, extends_ofBlank⟩
  case neg =>
    rw [if_neg hq] at hs ⊢
    rw [if_neg hq]
    cases hi' : ((retrieval settings' request).run client s).value
    case error =>
      cases hv.symm.trans (value_ofRequest_of_failure ht' hq hi')
      cases he
    case ok issues' =>
      cases hv.symm.trans (value_ofRequest_of_issues ht' hq hi')
      have ⟨issues, hi, hp, hx⟩ := retrieval_prefix hr hs hi'
      exact ⟨_, value_ofRequest_of_issues ht hq hi, rfl, extends_ofIssues hx hp hr.maxKeys
        (Retrieval.of_issues_ok hi).1 (Retrieval.of_issues_ok hi').1⟩

-- A script that is settled about cursors leaves no doubt in a run.
theorem settled_resolve {script : Script} (h : script.Settled) :
    Exchange.Settled ((resolve clock (.ok settings) i).exchanges Script.client script) := by
  rw [resolve, exchanges_ofRequest]
  split
  case isTrue => exact .inr (by simp)
  case isFalse =>
    rw [retrieval, Retrieval.exchanges_issues]
    obtain ⟨cap, hc⟩ := Retrieval.exists_toNat_pageCap settings.pageCap
    rw [hc]
    exact h.settled_entries

-- With caps no smaller than before, a run that succeeds would have succeeded before. It makes the calls that
-- it made, and goes on from there, and what it finds begins with what it found.
theorem raising_caps_extends {σ : Type} (clock clock' : Clock) (settings settings' : Settings) (i : Invocation)
    (client : Client σ) (s : σ) (hr : settings.RaisesCaps settings') (hc : clock'.Measures → clock.Measures) :
    let resolution := resolve clock (.ok settings) i
    let resolution' := resolve clock' (.ok settings') i
    Exchange.Settled (resolution'.exchanges client s) →
      ∀ r', (resolution'.run client s).value = .ok r' → r'.error = none →
        ∃ r, (resolution.run client s).value = .ok r ∧ r.error = none ∧
          (resolution.run client s).calls <+: (resolution'.run client s).calls ∧
          Extends (resolution.exchanges client s) (resolution'.exchanges client s) r r' := by
  intro resolution resolution' hs r' hv he
  have ⟨r, hr, he, hx⟩ := extends_ofRequest hr hc hs hv he
  have hcalls : (resolution.run client s).calls <+: (resolution'.run client s).calls := by
    rw [Dialogue.calls_eq_map_exchanges, Dialogue.calls_eq_map_exchanges]
    exact hx.exchanges.map _
  exact ⟨r, hr, he, hcalls, hx⟩

-- There are no cursors, and the second page repeats a key of the first one. The smaller caps allow for one
-- page and two keys.
theorem raising_caps_extends_by_overlapping_page :
    let clock : Clock := ⟨fun _ => .zero⟩
    let i : Invocation := { arguments := ["subtask: project = A"] }
    let page (keys : List String) : Json := .obj [
      ("issues", .arr [.obj [("fields", .obj [
        ("subtasks", .arr (keys.map fun key => .obj [("key", .str key)]))])]]),
      ("maxResults", .int 1), ("total", .int 2)]
    let script : Script := {
      enhanced := [.error (.unavailable "gone")]
      legacy := [.ok (page ["A-1", "A-2", "A-3"]), .ok (page ["A-4", "A-2"])] }
    let run settings := (resolve clock (.ok settings) i).run Script.client script
    ∃ r r', (run { pageCap := 1, maxKeys := 2 }).value = .ok r ∧
      (run { pageCap := 2, maxKeys := 4 }).value = .ok r' ∧
      (run { pageCap := 1, maxKeys := 2 }).calls <+: (run { pageCap := 2, maxKeys := 4 }).calls ∧
      Clause.readKeys r.clause <+: Clause.readKeys r'.clause ∧
      Clause.readKeys r.clause = ["A-1", "A-2"] ∧
      Clause.readKeys r'.clause = ["A-1", "A-2", "A-3", "A-4"] := by
  intro clock i page script run
  have hr : Settings.RaisesCaps { pageCap := 1, maxKeys := 2 } { pageCap := 2, maxKeys := 4 } :=
    ⟨by decide, by decide, rfl⟩
  have hs : script.Settled := .inl ⟨"gone", [], rfl⟩
  have hv' : (run { pageCap := 2, maxKeys := 4 }).value = .ok {
      clause := "issuekey in ('A-1', 'A-2', 'A-3', 'A-4')", relation := some .subtask, seeds := 2, keys := 4 } := by
    decide +kernel
  have hv : (run { pageCap := 1, maxKeys := 2 }).value = .ok {
      clause := "issuekey in ('A-1', 'A-2')", relation := some .subtask, seeds := 1, keys := 2 } := by
    decide +kernel
  have ⟨r, hr, _, hc, hx⟩ := raising_caps_extends clock clock _ _ i Script.client script hr id
    (settled_resolve hs) _ hv' rfl
  cases hr.symm.trans hv
  exact ⟨_, _, hv, hv', hc, hx.keys, by decide +kernel, by decide +kernel⟩

end Resolution
end RelatedIssues
