import RelatedIssues.Proofs.Request.Cursor

namespace RelatedIssues.Cursor

-- What can be asked of a cursor.
inductive Call
  | skipBlanks
  | peek
  | take (wanted : Char)
  | takeWord
  | takeUntil (stop : Char)
  | rest
  deriving DecidableEq, Repr

-- A text that is asked for may be missing.
inductive Reply
  | done
  | told (taken : Bool)
  | found (text : Option (List Char))
  deriving DecidableEq, Repr

def answer (c : Cursor) : Call → Reply × Cursor
  | .skipBlanks => (.done, c.skipBlanks)
  | .peek => (.found (some c.peek), c)
  | .take wanted => (.told (c.take [wanted]).1, (c.take [wanted]).2)
  | .takeWord => (.found (some c.takeWord.1), c.takeWord.2)
  | .takeUntil stop => (.found (c.takeUntil [stop]).1, (c.takeUntil [stop]).2)
  | .rest => (.found (some c.rest), c)

-- The cursor after some calls.
def after (c : Cursor) : List Call → Cursor
  | [] => c
  | call :: calls => (c.answer call).2.after calls

-- The text from the place of one cursor up to the place of another one.
def upTo (c c' : Cursor) : List Char :=
  c.text.extract c.pos c'.pos

-- What some calls pass over, one after the other.
def passed (c : Cursor) : List Call → List Char
  | [] => []
  | call :: calls => c.upTo (c.answer call).2 ++ (c.answer call).2.passed calls

-- A run of characters of some kind, as long as it can be.
structure IsRun (p : Char → Bool) (run left : List Char) : Prop where
  kind : ∀ x ∈ run, p x
  stop : ∀ x ∈ left.head?, ¬p x

-- How a call splits the text that is left, into what it passes over and what it leaves.
inductive Splits : Call → Reply → List Char → List Char → Prop
  | skipBlanks (h : IsRun Text.isBlank gap left) : Splits .skipBlanks .done gap left
  | peek : Splits .peek (.found (some (left.take 1))) [] left
  | taken (h : IsRun Text.isBlank gap (x :: left)) : Splits (.take x) (.told true) (gap ++ [x]) left
  | refused (h : IsRun Text.isBlank gap left) (hx : left.head? ≠ some x) : Splits (.take x) (.told false) gap left
  | takeWord (h : IsRun isWordChar word left) : Splits .takeWord (.found (some word)) word left
  | found (h : x ∉ chunk) : Splits (.takeUntil x) (.found (some chunk)) (chunk ++ [x]) left
  | missing (h : x ∉ left) : Splits (.takeUntil x) (.found none) [] left
  | rest : Splits .rest (.found (some left)) [] left

-- A cursor further on in the same text.
structure Follows (c c' : Cursor) : Prop where
  text    : c'.text = c.text
  forward : c.pos ≤ c'.pos
  inside  : c'.pos ≤ c'.text.length

structure Accounts (call : Call) (reply : Reply) (c c' : Cursor) : Prop extends Follows c c' where
  splits : Splits call reply (c.upTo c') c'.rest

variable {c c' c'' : Cursor} {call : Call} {reply : Reply} {calls calls' : List Call}
variable {p : Char → Bool} {run gap gone left : List Char} {m n : Nat}

theorem isRun_takeWhile (p : Char → Bool) (s : List Char) : IsRun p (s.takeWhile p) (s.dropWhile p) where
  kind _ h := List.mem_takeWhile_imp h
  stop x h := by
    have hn := List.head?_dropWhile_not p s
    rw [Option.mem_def.mp h] at hn
    simpa using hn

theorem IsRun.takeWhile_eq (h : IsRun p run left) : (run ++ left).takeWhile p = run :=
  (span_append h.kind h.stop).1

@[simp]
theorem advance_advance : (c.advance m).advance n = c.advance (m + n) := by
  simp [advance, Nat.add_assoc]

theorem skipBlanks_of_isRun (hr : c.rest = gap ++ left) (h : IsRun Text.isBlank gap left) :
    c.skipBlanks = c.advance gap.length := by
  rw [skipBlanks, hr, h.takeWhile_eq]

theorem answer_of_splits (hr : c.rest = gone ++ left) (h : Splits call reply gone left) :
    c.answer call = (reply, c.advance gone.length) := by
  cases h with
  | skipBlanks h => simp [answer, skipBlanks_of_isRun hr h]
  | peek => simp [answer, Cursor.peek, hr, advance]
  | taken h =>
    rw [List.append_assoc, List.singleton_append] at hr
    simp [answer, take, skipBlanks_of_isRun hr h, Cursor.peek, hr]
  | @refused _ _ x h hx =>
    have hn : left.take 1 ≠ [x] := by simpa [List.take_one] using hx
    simp [answer, take, skipBlanks_of_isRun hr h, Cursor.peek, hr, hn]
  | takeWord h => simp [answer, takeWord, hr, h.takeWhile_eq]
  | found h =>
    rw [List.append_assoc, List.singleton_append] at hr
    simp [answer, takeUntil_of_split hr h]
  | missing h =>
    rw [List.nil_append] at hr
    simp [answer, takeUntil, hr, distance?_eq_none h, advance]
  | rest => simp [answer, hr, advance]

-- Whatever text is left, each call splits it in one of these ways.
theorem exists_splits (c : Cursor) (call : Call) :
    ∃ reply gone left, c.rest = gone ++ left ∧ Splits call reply gone left := by
  have hb := isRun_takeWhile Text.isBlank c.rest
  have hs := List.takeWhile_append_dropWhile (p := Text.isBlank) (l := c.rest)
  cases call with
  | skipBlanks => exact ⟨_, _, _, hs.symm, .skipBlanks hb⟩
  | peek => exact ⟨_, _, _, rfl, .peek⟩
  | take x =>
    by_cases hx : (c.rest.dropWhile Text.isBlank).head? = some x
    case pos =>
      have ⟨left, hl⟩ := List.head?_eq_some_iff.mp hx
      rw [hl] at hs hb
      exact ⟨_, _, left, by simp [hs], .taken hb⟩
    case neg => exact ⟨_, _, _, hs.symm, .refused hb hx⟩
  | takeWord =>
    exact ⟨_, _, _, List.takeWhile_append_dropWhile.symm, .takeWord (isRun_takeWhile isWordChar c.rest)⟩
  | takeUntil x =>
    by_cases hx : x ∈ c.rest
    case pos =>
      have ⟨chunk, left, hr, hn⟩ := List.eq_append_cons_of_mem hx
      exact ⟨_, _, left, by simp [hr], .found hn⟩
    case neg => exact ⟨_, _, _, rfl, .missing hx⟩
  | rest => exact ⟨_, _, _, rfl, .rest⟩

theorem upTo_eq : c.upTo c' = c.rest.take (c'.pos - c.pos) :=
  List.extract_eq_take_drop

theorem upTo_advance (hr : c.rest = gone ++ left) : c.upTo (c.advance gone.length) = gone := by
  simp [upTo_eq, hr, advance]

theorem follows_advance (hc : c.pos ≤ c.text.length) (hr : c.rest = gone ++ left) :
    Follows c (c.advance gone.length) where
  text := rfl
  forward := Nat.le_add_right ..
  inside := by
    have hl : c.text.length - c.pos = gone.length + left.length := by
      simpa [Cursor.rest] using congrArg List.length hr
    show c.pos + gone.length ≤ c.text.length
    omega

namespace Follows

theorem refl (hc : c.pos ≤ c.text.length) : Follows c c :=
  ⟨rfl, le_rfl, hc⟩

theorem trans (h : Follows c c') (h' : Follows c' c'') : Follows c c'' :=
  ⟨h'.text.trans h.text, h.forward.trans h'.forward, h'.inside⟩

theorem upTo_append_rest (h : Follows c c') : c.upTo c' ++ c'.rest = c.rest := by
  have hr : c'.rest = c.rest.drop (c'.pos - c.pos) := by
    simp [Cursor.rest, h.text, List.drop_drop, Nat.add_sub_cancel' h.forward]
  rw [upTo_eq, hr, List.take_append_drop]

-- A cursor moves by the length of what it passes over, so not at all if that is nothing.
theorem advance_upTo (h : Follows c c') : c.advance (c.upTo c').length = c' := by
  have hi : c'.pos ≤ c.text.length := h.text ▸ h.inside
  have hl : (c.upTo c').length = c'.pos - c.pos := by
    rw [upTo_eq, List.length_take, Cursor.rest, List.length_drop]
    omega
  rw [hl, advance, Nat.add_sub_cancel' h.forward, ← h.text]

end Follows

-- A reply and a place account for the text between the places if and only if they are the answer.
theorem answer_eq_iff (hc : c.pos ≤ c.text.length) : c.answer call = (reply, c') ↔ Accounts call reply c c' := by
  constructor
  case mp =>
    intro ha
    have ⟨_, gone, left, hr, hs⟩ := exists_splits c call
    cases ha.symm.trans (answer_of_splits hr hs)
    refine ⟨follows_advance hc hr, ?_⟩
    simpa [upTo_advance hr, hr] using hs
  case mpr =>
    intro h
    rw [answer_of_splits h.upTo_append_rest.symm h.splits, h.advance_upTo]

theorem follows_answer (hc : c.pos ≤ c.text.length) (call : Call) : Follows c (c.answer call).2 :=
  ((answer_eq_iff hc).mp rfl).toFollows

theorem after_append : c.after (calls ++ calls') = (c.after calls).after calls' := by
  induction calls generalizing c with
  | nil => rfl
  | cons call calls ih => exact ih

theorem follows_after (hc : c.pos ≤ c.text.length) (calls : List Call) : Follows c (c.after calls) := by
  induction calls generalizing c with
  | nil => exact .refl hc
  | cons call calls ih =>
    have h := follows_answer hc call
    exact h.trans (ih h.inside)

theorem passed_append_rest (hc : c.pos ≤ c.text.length) (calls : List Call) :
    c.passed calls ++ (c.after calls).rest = c.rest := by
  induction calls generalizing c with
  | nil => rfl
  | cons call calls ih =>
    have h := follows_answer hc call
    rw [passed, after, List.append_assoc, ih h.inside, h.upTo_append_rest]

-- After any calls the cursor is within the text, and further calls do not take it back. What they have passed over is
-- the text up to its place, and every call from there is answered by the one reply and the one place that account for
-- the text between the places.
theorem calls_account_for_text (text : List Char) (calls : List Call) :
    let c := (start text).after calls
    c.text = text ∧ c.pos ≤ text.length ∧ (start text).passed calls = text.take c.pos ∧
    (∀ more, c.pos ≤ ((start text).after (calls ++ more)).pos) ∧
    ∀ call reply c', c.answer call = (reply, c') ↔ Accounts call reply c c' := by
  intro c
  have hs : (start text).pos ≤ (start text).text.length := Nat.zero_le _
  have h : Follows (start text) c := follows_after hs calls
  have ht : c.text = text := h.text
  refine ⟨ht, ht ▸ h.inside, ?passed, ?forward, fun _ _ _ => answer_eq_iff h.inside⟩
  case passed =>
    have hp := passed_append_rest hs calls
    rw [Cursor.rest, rest_start, ht] at hp
    exact List.append_cancel_right (hp.trans (List.take_append_drop c.pos text).symm)
  case forward =>
    intro more
    rw [after_append]
    exact (follows_after h.inside more).forward

end RelatedIssues.Cursor
