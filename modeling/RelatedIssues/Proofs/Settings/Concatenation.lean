import RelatedIssues.Proofs.Settings.EnvFile

namespace RelatedIssues.EnvFile

variable {a b : String}

theorem entry?_nil : entry? [] = none :=
  rfl

-- Empty lines set nothing, so it does not matter whether there is one between the texts.
theorem filterMap_entry?_lines (s rest : List Char) : (Text.lines (s ++ '\n' :: rest)).filterMap entry? =
    (Text.lines s).filterMap entry? ++ (Text.lines rest).filterMap entry? := by
  have ⟨gap, hg, hl⟩ := Text.exists_lines_append s rest
  have hn : gap.filterMap entry? = [] :=
    List.filterMap_eq_nil_iff.mpr fun line hm => hg line hm ▸ entry?_nil
  rw [hl, List.filterMap_append, List.filterMap_append, hn, List.nil_append]

theorem override_read {t : Table String} {text : String} : t.override (read text) =
    t.override (((Text.lines text.toList).filterMap entry?).map fun entry =>
      (String.ofList entry.1, String.ofList entry.2)) := by
  rw [read_eq]
  exact Table.override_override List.nodup_nil

theorem read_append : read (a ++ "\n" ++ b) = (read a).override (read b) := by
  have hs : (a ++ "\n" ++ b).toList = a.toList ++ '\n' :: b.toList := by simp
  rw [override_read, read_eq, hs, filterMap_entry?_lines, List.map_append, Table.override_append, ← read_eq]

-- Two texts are read one after the other: a name has the value that the lower text gives it, or else that of the
-- upper one, and it keeps the place where it came in first. Every name that is read can stand in a line of its own,
-- and every value fits into one.
theorem read_joins_texts (a b : String) :
    read (a ++ "\n" ++ b) = (read a).override (read b) ∧
    (∀ name, (read (a ++ "\n" ++ b)).get? name = ((read b).get? name).or ((read a).get? name)) ∧
    ∀ text, (read text).names.Nodup ∧
      ∀ entry ∈ read text, IsName entry.1.toList ∧ Text.HasNoBreak entry.2.toList := by
  refine ⟨read_append, fun name => ?_, fun text => ?_⟩
  case refine_1 => rw [read_append, Table.get?_override (writable_read b).distinct]
  case refine_2 => exact ⟨(writable_read text).distinct, (writable_read text).entries⟩

-- The upper text ends in a carriage return, which is one break with the line feed between them. The lower text has
-- a comment, a line without a name and another value for the first variable.
theorem read_joins_texts_at_carriage_return :
    let a := "A=1\u2028B = 'x'\r"
    let b := "# C=3\x0b=4\x85 A= 2\nD"
    read a = [("A", "1"), ("B", "x")] ∧ read b = [("A", "2")] ∧
    read (a ++ "\n" ++ b) = [("A", "2"), ("B", "x")] ∧ IsName "B".toList ∧ Text.HasNoBreak "x".toList := by
  intro a b
  have ha : read a = [("A", "1"), ("B", "x")] := by decide +kernel
  have hb : read b = [("A", "2")] := by decide +kernel
  have ⟨hr, _, hw⟩ := read_joins_texts a b
  rw [ha, hb] at hr
  have ⟨hn, hv⟩ := (hw a).2 ("B", "x") (by simp [ha])
  exact ⟨ha, hb, hr, hn, hv⟩

end RelatedIssues.EnvFile
