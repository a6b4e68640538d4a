import RelatedIssues.Proofs.Clause.RoundTrip

namespace RelatedIssues.Clause

-- How the key of an issue is compared: with one key, or with those of a list.
inductive Comparison where
  | equal
  | unequal
  | among
  | outside
  deriving DecidableEq, Repr

namespace Comparison

-- The text in front of the keys.
def head : Comparison → String
  | equal => "issuekey = \""
  | unequal => "issuekey != \""
  | among => "issuekey in ("
  | outside => "issuekey not in ("

def all : List Comparison :=
  [equal, unequal, among, outside]

def ofText? (text : String) : Option Comparison :=
  all.find? fun c => c.head.toList.isPrefixOf text.toList

end Comparison

-- The key between the double quotes of a text.
def quotedKey (text : String) : String :=
  .ofList (((text.toList.dropWhile (· ≠ '"')).drop 1).takeWhile (· ≠ '"'))

-- Whether an issue meets the clause with this text. What is no clause is met by none.
def meets (text key : String) : Bool :=
  match Comparison.ofText? text with
  | some .equal => key = quotedKey text
  | some .unequal => key ≠ quotedKey text
  | some .among => key ∈ readKeys text
  | some .outside => key ∉ readKeys text
  | none => false

variable {c : Clause} {keys : List String} {key : String}

theorem comparison_text (h : c.keys ≠ []) :
    Comparison.ofText? c.text = some (if c.negated then .outside else .among) := by
  rw [Comparison.ofText?, toList_text h]
  cases c.negated <;> simp [Comparison.all, Comparison.head, operator, List.isPrefixOf]

theorem meets_matchNothing : meets matchNothing key = decide (key = sentinel) := by
  have hc : Comparison.ofText? matchNothing = some .equal := by decide
  have hq : quotedKey matchNothing = sentinel := by decide
  simp [meets, hc, hq]

theorem meets_matchEverything : meets matchEverything key = decide (key ≠ sentinel) := by
  have hc : Comparison.ofText? matchEverything = some .unequal := by decide
  have hq : quotedKey matchEverything = sentinel := by decide
  simp [meets, hc, hq]

-- The clause without keys names one that no issue has, so only this one must be left out.
theorem meets_text (h : key ≠ sentinel) : meets c.text key = (c.negated ^^ decide (key ∈ c.keys)) := by
  by_cases hk : c.keys = []
  case pos =>
    rw [text_of_keys_eq_nil hk, hk]
    cases c.negated <;> simp [meets_matchNothing, meets_matchEverything, h]
  case neg =>
    simp only [meets, comparison_text hk, readKeys_text]
    cases c.negated <;> simp

theorem meets_build_iff (h : key ≠ sentinel) : meets (build keys false) key ↔ key ∈ keys := by
  rw [build, meets_text h]
  simp [ofKeys]

theorem meets_build_not_iff (h : key ≠ sentinel) : meets (build keys true) key ↔ key ∉ keys := by
  rw [build, meets_text h]
  simp [ofKeys]

-- Two clauses on these keys, one of which is met by the issues that the other one leaves out.
structure Complements (keys : List String) (clause excluding : String) : Prop where
  same_keys : readKeys clause = keys ∧ readKeys excluding = keys
  chosen    : ∀ key, key ≠ sentinel → (meets clause key ↔ key ∈ keys)
  divided   : ∀ key, key ≠ sentinel → (meets excluding key ↔ ¬meets clause key)

theorem complements_build (h : keys.Nodup) : Complements keys (build keys false) (build keys true) where
  same_keys := by simp [readKeys_build, Distinct.eraseDups_of_nodup h]
  chosen _ hk := meets_build_iff hk
  divided _ hk := by rw [meets_build_iff hk, meets_build_not_iff hk]

end RelatedIssues.Clause
