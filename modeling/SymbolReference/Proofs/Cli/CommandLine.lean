import SymbolReference.Cli.Request
import SymbolReference.Proofs.Text.Fields

namespace SymbolReference.Cli

theorem namesOptions_eq_false {arg : String} (h : arg.toList.head? ≠ some '-') :
    namesOptions arg = false := by
  have hdash : ¬ arg.startsWith "-" = true := by
    rw [Text.startsWith_iff_head? (c := '-') (by decide)]
    exact h
  rw [namesOptions, Bool.eq_false_iff.mpr hdash, Bool.false_and]

theorem OptionName.long_eq_dashes (o : OptionName) :
    ∃ word, o.long.toList = '-' :: '-' :: word ∧ word ≠ [] := by
  cases o <;> exact ⟨_, rfl, List.cons_ne_nil _ _⟩

theorem namesOptions_long (o : OptionName) : namesOptions o.long = true := by
  obtain ⟨word, hlong, -⟩ := o.long_eq_dashes
  have hdash : o.long.startsWith "-" = true := by
    rw [Text.startsWith_iff_head? (c := '-') (by decide), hlong]
    rfl
  rw [namesOptions, hdash, Bool.true_and, decide_eq_true_eq, ← String.length_toList, hlong]
  simp only [List.length_cons]
  omega

theorem OptionName.long_injective : Function.Injective OptionName.long := by
  intro o p h
  cases o <;> cases p <;> first | rfl | exact absurd h (by decide)

theorem findLong?_long {known : List OptionName} {o : OptionName} (h : o ∈ known) :
    findLong? known o.long = some o := by
  obtain ⟨found, hfound⟩ : ∃ found, known.find? (fun p => p.long = o.long) = some found :=
    Option.isSome_iff_exists.mp (List.find?_isSome.mpr ⟨o, h, decide_eq_true rfl⟩)
  have hlong : found.long = o.long := by simpa using List.find?_some hfound
  rw [findLong?, hfound, OptionName.long_injective hlong]

theorem readOption_long {known : List OptionName} {o : OptionName} (h : o ∈ known)
    (hflag : o.takesValue = false) : readOption known o.long = .ok (.complete [(o, none)]) := by
  have hsplit : splitValue o.long.toList = (o.long.toList, none) := by cases o <;> rfl
  unfold readOption
  simp only [hsplit, String.ofList_toList, findLong?_long h, hflag]
  rfl

/-- The name of a command is told from the options of the program. -/
theorem ProgramRequest.read_command (c : Command) (rest : List String) :
    ProgramRequest.read (c.name :: rest) = .ok (.command c rest) := by
  have hend : c.name ≠ "--" := by cases c <;> decide
  have hname : namesOptions c.name = false := namesOptions_eq_false (by cases c <;> decide)
  rw [ProgramRequest.read, Arguments.read, if_neg hend, hname, if_neg Bool.false_ne_true,
    if_neg Bool.false_ne_true]
  simp only [programAnswer?, Command.ofName?_name]

theorem Arguments.read_flags {known flags : List OptionName} (mixed : Bool)
    (h : ∀ o ∈ flags, o ∈ known ∧ o.takesValue = false) :
    Arguments.read known mixed (flags.map OptionName.long) =
      .ok { given := flags.map fun o => (o, none) } := by
  induction flags with
  | nil => rfl
  | cons o others ih =>
      obtain ⟨⟨hknown, hflag⟩, hothers⟩ := List.forall_mem_cons.mp h
      have hend : o.long ≠ "--" := by
        obtain ⟨word, hlong, hword⟩ := o.long_eq_dashes
        intro hend
        rw [hend] at hlong
        exact hword (List.cons.inj (List.cons.inj hlong).2).2.symm
      rw [List.map_cons, Arguments.read, if_neg hend, namesOptions_long, if_pos rfl]
      simp only [readOption_long hknown hflag, ih hothers]
      rfl

/-- Names and flags are read as they are written, when the names do not begin with a dash. -/
theorem Arguments.read_names_flags {known flags : List OptionName} {names : List String}
    (hnames : ∀ name ∈ names, name.toList.head? ≠ some '-')
    (hflags : ∀ o ∈ flags, o ∈ known ∧ o.takesValue = false) :
    Arguments.read known true (names ++ flags.map OptionName.long) =
      .ok { given := flags.map fun o => (o, none), rest := names } := by
  induction names with
  | nil => exact Arguments.read_flags true hflags
  | cons name others ih =>
      obtain ⟨hname, hothers⟩ := List.forall_mem_cons.mp hnames
      have hend : name ≠ "--" := by
        rintro rfl
        exact hname rfl
      rw [List.cons_append, Arguments.read, if_neg hend, namesOptions_eq_false hname,
        if_neg Bool.false_ne_true, if_pos rfl, ih hothers]

end SymbolReference.Cli
