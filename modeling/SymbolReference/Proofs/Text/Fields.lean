import SymbolReference.Text.Lines

namespace SymbolReference.Text

theorem fields_eq_splitOn (separator : Char) (s : List Char) :
    fields separator s = s.splitOn separator := by
  induction s with
  | nil => rfl
  | cons c rest ih =>
      rw [List.splitOn_eq_splitOnP, List.splitOnP_cons_eq_if_modifyHead, fields,
        ← List.splitOn_eq_splitOnP, ← ih]
      by_cases hc : c = separator
      · simp [hc]
      · simp only [hc, if_false, beq_iff_eq]
        have hne : fields separator rest ≠ [] := by
          rw [ih]
          exact List.splitOn_ne_nil separator rest
        obtain ⟨field, others, hfields⟩ := List.exists_cons_of_ne_nil hne
        rw [hfields]
        rfl

theorem fields_ne_nil (separator : Char) (s : List Char) : fields separator s ≠ [] := by
  rw [fields_eq_splitOn]
  exact List.splitOn_ne_nil separator s

theorem fields_append_cons (separator : Char) (s t : List Char) :
    fields separator (s ++ separator :: t) = fields separator s ++ fields separator t := by
  simp only [fields_eq_splitOn, List.splitOn_eq_splitOnP]
  exact List.splitOnP_append_cons s t (by simp)

theorem fields_of_notMem {separator : Char} {s : List Char} (h : separator ∉ s) :
    fields separator s = [s] := by
  rw [fields_eq_splitOn, List.splitOn_eq_splitOnP]
  refine List.splitOnP_eq_singleton fun c hc => ?_
  have hne : c ≠ separator := fun heq => h (heq ▸ hc)
  simpa using hne

/-- What stands before the first separator is determined by the text. -/
theorem eq_of_append_cons_eq {separator : Char} {s t after rest : List Char} (hs : separator ∉ s)
    (ht : separator ∉ t) (h : s ++ separator :: after = t ++ separator :: rest) : s = t := by
  have hfields := congrArg (fields separator) h
  rw [fields_append_cons, fields_append_cons, fields_of_notMem hs, fields_of_notMem ht] at hfields
  exact (List.cons.inj hfields).1

/-- What stands after the last separator is determined by the text. -/
theorem eq_of_append_cons_eq_right {separator : Char} {s t before front : List Char}
    (hs : separator ∉ s) (ht : separator ∉ t)
    (h : before ++ separator :: s = front ++ separator :: t) : s = t := by
  have hfields := congrArg (fields separator) h
  rw [fields_append_cons, fields_append_cons, fields_of_notMem hs, fields_of_notMem ht] at hfields
  simpa using (List.append_inj' hfields rfl).2

theorem startsWith_iff_head? {start : String} {c : Char} (h : start.toList = [c]) (s : String) :
    s.startsWith start = true ↔ s.toList.head? = some c := by
  rw [String.startsWith_string_iff, h, List.singleton_prefix_iff_head?_eq_some]

end SymbolReference.Text
