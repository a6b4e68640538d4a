import RelatedIssues.Proofs.Clause.RoundTrip
import RelatedIssues.Proofs.Resolution.Ending
import RelatedIssues.Search.Script

namespace RelatedIssues.Resolution

variable {settings : Settings} {negated : Bool} {request : Request} {issues : List Issue}
  {maxKeys elapsed : Nat} {clock : Clock} {xs : List Exchange} {es : List Event} {r : Resolution}
  {f : Failure}

theorem nodup_keptKeys : (keptKeys maxKeys request issues).Nodup :=
  (Distinct.nodup_eraseDups _).sublist (List.take_sublist maxKeys _)

-- The keys are distinct before they are cut off, so the clause drops none of them once more.
theorem readKeys_ofIssues :
    Clause.readKeys (ofIssues maxKeys negated request issues elapsed).clause =
      keptKeys maxKeys request issues := by
  rw [ofIssues, Clause.readKeys_build, Distinct.eraseDups_of_nodup nodup_keptKeys]

theorem readKeys_matchNothing : Clause.readKeys Clause.matchNothing = [] :=
  @Clause.readKeys_build [] false

-- A result counts the keys of its clause.
def CountsKeys (r : Resolution) : Prop :=
  r.keys = (Clause.readKeys r.clause).length

theorem countsKeys_ofFailure : CountsKeys (ofFailure f elapsed) := by
  rw [CountsKeys, ofFailure, readKeys_matchNothing, List.length_nil]

theorem Ends.countsKeys (h : Ends clock settings negated request xs es r) : CountsKeys r := by
  cases h with
  | blank => rw [CountsKeys, ofBlank, readKeys_matchNothing, List.length_nil]
  | broken | untimed => exact countsKeys_ofFailure
  | resolved => rw [CountsKeys, readKeys_ofIssues, ofIssues]

-- The warning comes with the number of keys that were kept and of those that were found, and it does
-- not come if these are equal.
theorem capped_mem_report_iff {kept found : Nat} :
    .capped kept found ∈ report maxKeys request issues elapsed ↔
      kept = maxKeys ∧ found = (extractKeys issues request.relation request.filter).length ∧
        kept < found := by
  simp only [report, keptKeys, List.length_take, List.mem_cons, reduceCtorEq, false_or]
  split <;> simp <;> omega

-- What a result and the log say of issues that have been retrieved. The clause holds the first of the keys
-- that the issues lead to, and there is a warning if and only if it does not hold all of them.
structure Answers (maxKeys : Nat) (request : Request) (issues : List Issue) (es : List Event)
    (r : Resolution) : Prop where
  clause  : Clause.readKeys r.clause =
    (extractKeys issues request.relation request.filter).take maxKeys
  keys    : r.keys = (Clause.readKeys r.clause).length
  bounded : r.keys ≤ maxKeys
  capped  : ∀ kept found, .capped kept found ∈ es ↔
    kept = maxKeys ∧ found = (extractKeys issues request.relation request.filter).length ∧
      kept < found

theorem answers_ofIssues (h : ∀ e ∈ es, e.isTagged = false) :
    Answers maxKeys request issues (es ++ report maxKeys request issues elapsed)
      (ofIssues maxKeys negated request issues elapsed) where
  clause := readKeys_ofIssues
  keys := by rw [readKeys_ofIssues, ofIssues]
  bounded := List.length_take_le ..
  capped kept found := by
    have hn : .capped kept found ∉ es := fun hm => by cases h _ hm
    rw [List.mem_append, or_iff_right hn, capped_mem_report_iff]

theorem Ends.answers (h : Ends clock settings negated request xs es r) (hq : request.query ≠ "")
    (he : r.error = none) :
    r.seeds = (Exchange.found xs).length ∧
    ∃ issues, (Exchange.found xs).mapM Issue.ofJson = .ok issues ∧
      Answers settings.maxKeys request issues es r := by
  cases h with
  | blank h => contradiction
  | broken | untimed => cases he
  | resolved _ _ hm hu => exact ⟨Retrieval.length_eq_of_mapM hm, _, hm, answers_ofIssues hu⟩

-- Whatever result there is counts the keys of its clause. One without an error, for an argument that is
-- not blank, comes from calls for the query in the argument only, and it answers for all entries of the
-- search that was completed.
theorem resolve_answers {σ : Type} (clock : Clock) (i : Invocation) (client : Client σ) (s : σ) :
    (∀ loaded r, ((resolve clock loaded i).run client s).value = .ok r →
      r.keys = (Clause.readKeys r.clause).length) ∧
    ∀ settings r, ¬i.IsBlank → ((resolve clock (.ok settings) i).run client s).value = .ok r →
      r.error = none →
      let request := Request.parse i.argument
      let run := (resolve clock (.ok settings) i).run client s
      let raw := Exchange.found ((resolve clock (.ok settings) i).exchanges client s)
      (∀ call ∈ run.calls, call.query = request.query) ∧
      r.seeds = raw.length ∧
      ∃ issues, raw.mapM Issue.ofJson = .ok issues ∧
        Answers settings.maxKeys request issues run.events r := by
  constructor
  case left =>
    intro loaded r hv
    cases loaded
    case error f =>
      have ⟨elapsed, hr⟩ := exists_elapsed hv
      exact hr ▸ countsKeys_ofFailure
    case ok settings => exact (ends_ofRequest hv).countsKeys
  case right =>
    intro settings r hb hv he request run raw
    have hq : ∀ call ∈ run.calls, call.query = request.query := by
      rw [Dialogue.calls_eq_map_exchanges]
      exact List.forall_mem_map.mpr query_eq_of_ofRequest
    exact ⟨hq, (ends_ofRequest hv).answers (mt Invocation.isBlank_iff.mpr hb) he⟩

-- A search by cursor that is broken off leaves no keys behind, and of the two keys that the search by
-- offset leads to, one is kept.
theorem resolve_answers_after_fallback :
    let clock : Clock := ⟨fun _ => .zero⟩
    let i : Invocation := { arguments := ["subtask: project = A"] }
    let issue (keys : List String) : Json :=
      .obj [("fields", .obj [("subtasks", .arr (keys.map fun key => .obj [("key", .str key)]))])]
    let script : Script := {
      enhanced := [
        .ok (.obj [("issues", .arr [issue ["A-4"]]), ("nextPageToken", .str "t")]),
        .error (.unavailable "gone")]
      legacy := [.ok (.obj [("issues", .arr [issue ["A-2", "A-3"]])])] }
    let run := (resolve clock (.ok { maxKeys := 1 }) i).run Script.client script
    ∃ r, ¬i.IsBlank ∧ run.value = .ok r ∧ r.error = none ∧
      Clause.readKeys r.clause = ["A-2"] ∧ r.keys = 1 ∧ .capped 1 2 ∈ run.events := by
  intro clock i issue script run
  let r : Resolution :=
    { clause := "issuekey in ('A-2')", relation := some .subtask, seeds := 1, keys := 1 }
  have hi : ¬i.IsBlank := mt Invocation.isBlank_iff.mp (by decide +kernel)
  have hv : run.value = .ok r := by decide +kernel
  have ⟨_, _, issues, hm, ha⟩ := (resolve_answers clock i Script.client script).2 _ r hi hv rfl
  have hs : (Exchange.found ((resolve clock (.ok { maxKeys := 1 }) i).exchanges Script.client
      script)).mapM Issue.ofJson =
        .ok [{ subtasks := [{ key := some "A-2" }, { key := some "A-3" }] }] := by decide +kernel
  cases hm.symm.trans hs
  have hk : Clause.readKeys r.clause = ["A-2"] := ha.clause.trans (by decide +kernel)
  have hc : Event.capped 1 2 ∈ run.events := (ha.capped 1 2).mpr ⟨rfl, by decide +kernel, by decide⟩
  exact ⟨r, hi, hv, rfl, hk, rfl, hc⟩

end RelatedIssues.Resolution
