import RelatedIssues.Proofs.Resolution.Correctness
import RelatedIssues.Resolution.Report
import RelatedIssues.Search.Script

namespace RelatedIssues

-- The values in the rows of a table that have this name in front.
def ConsoleItem.valuesOf (name : String) : ConsoleItem → List String
  | table _ _ rows => (rows.filter (·.head? = some name)).filterMap (·[1]?)
  | _ => []

namespace Resolution

variable {clock : Clock} {settings : Settings} {negated : Bool} {request : Request} {xs : List Exchange}
  {es : List Event} {r : Resolution}

theorem valuesOf_keys_table :
    r.table.valuesOf "Keys" = if r.clauseKeys = [] then [] else [preview r.clauseKeys] := by
  have hf : r.filterRows.filter (·.head? = some "Keys") = [] := by
    simp [filterRows, List.filter_map, Function.comp_def]
  have he : r.errorRows.filter (·.head? = some "Keys") = [] := by
    simp [errorRows, List.filter_map, Function.comp_def]
  by_cases hk : r.clauseKeys = [] <;>
    simp [table, ConsoleItem.valuesOf, rows, keyRows, hf, he, hk]

-- Only a resolution that succeeded has keys in its clause.
theorem Ends.clauseKeys_eq (h : Ends clock settings negated request xs es r) (hk : 0 < r.keys) :
    ∃ issues, (Exchange.found xs).mapM Issue.ofJson = .ok issues ∧
      r.clauseKeys = keptKeys settings.maxKeys request issues := by
  cases h with
  | blank | broken | untimed => exact absurd hk (Nat.lt_irrefl 0)
  | resolved _ _ hm => exact ⟨_, hm, readKeys_ofIssues⟩

theorem length_clauseKeys {σ : Type} {client : Client σ} {s : σ} {loaded : Except Failure Settings}
    {i : Invocation} (h : ((resolve clock loaded i).run client s).value = .ok r) :
    r.clauseKeys.length = r.keys := by
  cases loaded with
  | error f =>
    have ⟨elapsed, hr⟩ := exists_elapsed h
    exact hr ▸ countsKeys_ofFailure.symm
  | ok settings => exact (ends_ofRequest h).countsKeys.symm

theorem preview_eq {keys : List String} : preview keys =
    ", ".intercalate (keys.take (min 10 keys.length)) ++
      (if 10 < keys.length then " (+" ++ toString (keys.length - 10) ++ " more)" else "") := by
  rw [preview, ← List.take_eq_take_min]
  rfl

-- Whatever result there is, its table has a row for the keys if and only if it counts some. There is one such row
-- then, with the first ten of the keys that were kept and the number of those that are not shown.
theorem table_shows_kept_keys {σ : Type} (clock : Clock) (loaded : Except Failure Settings) (i : Invocation)
    (client : Client σ) (s : σ) {r : Resolution}
    (h : ((resolve clock loaded i).run client s).value = .ok r) :
    (r.table.valuesOf "Keys" ≠ [] ↔ 0 < r.keys) ∧
    (0 < r.keys → ∃ settings issues, loaded = .ok settings ∧
      (Exchange.found ((resolve clock loaded i).exchanges client s)).mapM Issue.ofJson = .ok issues ∧
      let request := Request.parse i.argument
      let kept := (extractKeys issues request.relation request.filter).take settings.maxKeys
      kept.length = r.keys ∧
      r.table.valuesOf "Keys" = [", ".intercalate (kept.take (min 10 r.keys)) ++
        if 10 < r.keys then " (+" ++ toString (r.keys - 10) ++ " more)" else ""]) := by
  have hl : r.clauseKeys.length = r.keys := length_clauseKeys h
  constructor
  case left =>
    rw [valuesOf_keys_table, ← hl, List.length_pos_iff]
    split <;> simp_all
  case right =>
    intro hk
    cases loaded with
    | error f =>
      have ⟨elapsed, hr⟩ := exists_elapsed h
      rw [hr] at hk
      exact absurd hk (Nat.lt_irrefl 0)
    | ok settings =>
      have ⟨issues, hm, hc⟩ := (ends_ofRequest h).clauseKeys_eq hk
      have hn : r.clauseKeys ≠ [] := List.length_pos_iff.mp (hl ▸ hk)
      have hkept : (keptKeys settings.maxKeys (Request.parse i.argument) issues).length = r.keys := by rw [← hc, hl]
      refine ⟨settings, issues, rfl, hm, hkept, ?_⟩
      rw [valuesOf_keys_table, if_neg hn, preview_eq, hl, hc]
      rfl

-- Of twelve keys one is not kept and one more is not shown. A quote, a backslash and what stands between two keys are
-- shown as they are, though the clause excludes them escaped.
theorem table_shows_kept_keys_cut_short :
    let i : Invocation := { operator := "not in", arguments := ["subtask: A"] }
    let subtasks : List String := ["'", "\\", "', '", "4", "5", "6", "7", "8", "9", "10", "11", "12"]
    let page : Json := .obj [("issues", .arr [.obj [("fields", .obj [
      ("subtasks", .arr (subtasks.map fun key => .obj [("key", .str key)]))])]])]
    let resolution := resolve ⟨fun _ => .zero⟩ (.ok { maxKeys := 11 }) i
    ∃ r, (resolution.run Script.client { enhanced := [.ok page] }).value = .ok r ∧ r.keys = 11 ∧
      r.table.valuesOf "Keys" = ["', \\, ', ', 4, 5, 6, 7, 8, 9, 10 (+1 more)"] := by
  intro i subtasks page resolution
  let r : Resolution := {
    clause := "issuekey not in ('\\'', '\\\\', '\\', \\'', '4', '5', '6', '7', '8', '9', '10', '11')"
    relation := some .subtask, seeds := 1, keys := 11 }
  have hv : (resolution.run Script.client { enhanced := [.ok page] }).value = .ok r := by decide +kernel
  have ⟨_, ht⟩ := table_shows_kept_keys _ _ i Script.client _ hv
  have ⟨settings, issues, hs, hm, _, hk⟩ := ht (by decide)
  have hi : (Exchange.found (resolution.exchanges Script.client { enhanced := [.ok page] })).mapM Issue.ofJson =
      .ok [{ subtasks := subtasks.map fun key => { key := some key } }] := by decide +kernel
  cases hs
  cases hm.symm.trans hi
  exact ⟨r, hv, rfl, hk.trans (by decide +kernel)⟩

end Resolution
end RelatedIssues
