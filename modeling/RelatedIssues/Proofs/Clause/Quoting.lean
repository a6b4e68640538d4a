import RelatedIssues.Clause.Basic
import RelatedIssues.Proofs.Distinct

namespace RelatedIssues.Clause

-- Where a reader stands: outside of all literals, in one, or in one right behind a backslash.
inductive Place where
  | outside
  | inside
  | escaped
  deriving DecidableEq, Repr

-- What a reader knows of the text so far: where it stands, how many literals have been closed, and the
-- text without the contents of the literals. Only the quotes of a literal are left of it.
structure Scan where
  place  : Place := .outside
  closed : Nat := 0
  frame  : List Char := []
  deriving DecidableEq, Repr

namespace Scan

-- A quote opens a literal. In a literal a backslash takes the next character along, and a quote that
-- no backslash has taken closes it.
def step (s : Scan) (c : Char) : Scan :=
  match s.place with
  | .outside =>
    { s with place := if c = '\'' then .inside else .outside, frame := s.frame ++ [c] }
  | .inside =>
    if c = '\'' then { place := .outside, closed := s.closed + 1, frame := s.frame ++ [c] }
    else if c = '\\' then { s with place := .escaped }
    else s
  | .escaped => { s with place := .inside }

def read (s : Scan) (text : List Char) : Scan :=
  text.foldl step s

variable {s : Scan} {c : Char}

@[simp]
theorem read_nil : s.read [] = s :=
  rfl

theorem read_cons {text : List Char} : s.read (c :: text) = (s.step c).read text :=
  rfl

theorem read_append {text rest : List Char} : s.read (text ++ rest) = (s.read text).read rest :=
  List.foldl_append

theorem step_outside (h : s.place = .outside) (hc : c ≠ '\'') :
    s.step c = { s with frame := s.frame ++ [c] } := by
  simp [step, h, hc]

theorem step_open (h : s.place = .outside) :
    s.step '\'' = { s with place := .inside, frame := s.frame ++ ['\''] } := by
  simp [step, h]

theorem step_close (h : s.place = .inside) :
    s.step '\'' = { place := .outside, closed := s.closed + 1, frame := s.frame ++ ['\''] } := by
  simp [step, h]

-- Text without quotes is kept as it is.
theorem read_outside {text : List Char} (h : s.place = .outside) (hq : '\'' ∉ text) :
    s.read text = { s with frame := s.frame ++ text } := by
  induction text generalizing s
  case nil => simp
  case cons c text ih =>
    have ⟨hc, ht⟩ := List.ne_and_not_mem_of_not_mem_cons hq
    rw [read_cons, step_outside h hc.symm, ih (by exact h) ht]
    simp

-- The escape of a character leads back to where it began, whether it has a backslash or not. This is
-- the invariant that keeps a key inside of its literal.
theorem read_escapeChar (h : s.place = .inside) : s.read (escapeChar c) = s := by
  cases s
  subst h
  unfold escapeChar
  split
  case isTrue => simp [read_cons, step]
  case isFalse hc =>
    have ⟨hb, hq⟩ := not_or.mp hc
    simp [read_cons, step, hb, hq]

theorem read_escape {key : List Char} (h : s.place = .inside) : s.read (escape key) = s := by
  induction key
  case nil => rfl
  case cons c key ih =>
    rw [escape, List.flatMap_cons, read_append, read_escapeChar h]
    exact ih

theorem read_literal {key : String} (h : s.place = .outside) :
    s.read (literal key) =
      { place := .outside, closed := s.closed + 1, frame := s.frame ++ ['\'', '\''] } := by
  rw [literal, List.cons_append, read_cons, step_open h, read_append, read_escape rfl, read_cons,
    step_close rfl]
  simp

-- What is left of some literals without their contents.
def hollow (n : Nat) : List Char :=
  [',', ' '].intercalate (List.replicate n ['\'', '\''])

theorem hollow_add_two {n : Nat} :
    hollow (n + 2) = ['\'', '\''] ++ [',', ' '] ++ hollow (n + 1) := by
  simp [hollow, List.replicate_succ]

theorem read_literals {keys : List String} (h : s.place = .outside) :
    s.read (literals keys) =
      { s with closed := s.closed + keys.length, frame := s.frame ++ hollow keys.length } := by
  induction keys generalizing s
  case nil => simp [literals, hollow]
  case cons key rest ih =>
    cases rest
    case nil =>
      rw [literals, read_literal h]
      simp [hollow, h]
    case cons key' rest =>
      have hs {s : Scan} (h : s.place = .outside) :
          s.read [',', ' '] = { s with frame := s.frame ++ [',', ' '] } :=
        read_outside h (by decide)
      rw [literals_cons_cons, read_append, read_append, read_literal h, hs (by rfl), ih (by rfl)]
      simp [hollow_add_two, h, Nat.add_comm, Nat.add_left_comm]

end Scan

-- What a reader makes of a whole text.
def scan (text : String) : Scan :=
  Scan.read {} text.toList

-- The text of a clause for `n` keys without the keys.
def frame (negated : Bool) (n : Nat) : String :=
  (if negated then "issuekey not in (" else "issuekey in (") ++
    ", ".intercalate (List.replicate n "''") ++ ")"

theorem toList_frame {negated : Bool} {n : Nat} :
    (frame negated n).toList =
      ("issuekey " ++ operator negated ++ " (").toList ++ Scan.hollow n ++ [')'] := by
  cases negated <;> simp [frame, operator, Scan.hollow, String.toList_intercalate]

theorem scan_text {c : Clause} (h : c.keys ≠ []) :
    scan c.text = ⟨.outside, c.keys.length, (frame c.negated c.keys.length).toList⟩ := by
  have hq := quote_not_mem_head c.negated
  rw [scan, toList_text h, Scan.read_append, Scan.read_append, Scan.read_outside (s := {}) rfl hq,
    Scan.read_literals (by rfl), Scan.read_outside (by rfl) (by decide), toList_frame]
  simp

-- A clause with keys leaves its reader outside of all literals, with one literal for each of the keys
-- that differ. The text around the literals depends on nothing but their number and the negation.
theorem scan_build {keys : List String} (negated : Bool) (h : keys ≠ []) :
    (scan (build keys negated)).place = .outside ∧
    (scan (build keys negated)).closed = keys.toFinset.card ∧
    String.ofList (scan (build keys negated)).frame = frame negated keys.toFinset.card := by
  have hs := scan_text (c := ofKeys keys negated) (mt Distinct.eraseDups_eq_nil.mp h)
  rw [build, hs, ← Distinct.length_eraseDups]
  exact ⟨rfl, rfl, String.ofList_toList⟩

-- Of three keys, the first and the last are the same and look like two, and the other would escape the
-- quote behind it.
theorem scan_build_of_imitations :
    let keys := ["A', 'B", "\\", "A', 'B"]
    keys ≠ [] ∧ (scan (build keys true)).place = .outside ∧ (scan (build keys true)).closed = 2 ∧
    String.ofList (scan (build keys true)).frame = "issuekey not in ('', '')" := by
  intro keys
  have hk : keys ≠ [] := by decide
  have ⟨hp, hc, hf⟩ := scan_build true hk
  have hd : keys.toFinset.card = 2 := by decide
  exact ⟨hk, hp, hc.trans hd, hf.trans (hd ▸ by decide)⟩

end RelatedIssues.Clause
