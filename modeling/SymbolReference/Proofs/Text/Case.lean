import SymbolReference.Text.Lower
import SymbolReference.Text.Upper

namespace SymbolReference.Text

/-- A run of code points: first and last code point, step and distance of the forms. -/
abbrev CaseRun := Nat × Nat × Nat × Int

/-- Whether a run holds a code point. -/
abbrev CaseRun.holds (n : Nat) (run : CaseRun) : Bool :=
  run.1 ≤ n && n ≤ run.2.1 && (n - run.1) % run.2.2.1 == 0

/-- Only the run of the letters can hold an ASCII character. -/
theorem find?_ascii {runs : Array CaseRun} {first last : Nat} {distance : Int}
    (hletters : (first, last, 1, distance) ∈ runs)
    (hothers : ∀ run ∈ runs, run = (first, last, 1, distance) ∨ 128 ≤ run.1) {n : Nat}
    (hn : n < 128) :
    runs.find? (CaseRun.holds n) =
      if first ≤ n ∧ n ≤ last then some (first, last, 1, distance) else none := by
  split
  · rename_i hmem
    rcases hfound : runs.find? (CaseRun.holds n) with _ | run
    · rw [Array.find?_eq_none] at hfound
      exact absurd (by simpa [CaseRun.holds, Nat.mod_one] using hmem) (hfound _ hletters)
    · have hholds : CaseRun.holds n run = true := Array.find?_some hfound
      simp only [CaseRun.holds, Bool.and_eq_true, decide_eq_true_eq] at hholds
      rcases hothers run (Array.mem_of_find?_eq_some hfound) with rfl | hstart
      · rfl
      · omega
  · rename_i hmem
    rw [Array.find?_eq_none]
    intro run hrun hholds
    simp only [CaseRun.holds, Bool.and_eq_true, decide_eq_true_eq] at hholds
    rcases hothers run hrun with rfl | hstart
    · exact hmem hholds.1
    · omega

theorem lowerRuns_ascii :
    (65, 90, 1, 32) ∈ lowerRuns ∧ ∀ run ∈ lowerRuns, run = (65, 90, 1, 32) ∨ 128 ≤ run.1 := by
  have hall :
      (lowerRuns.toList.all fun run => decide (run = (65, 90, 1, 32) ∨ 128 ≤ run.1)) = true := by
    decide +kernel
  refine ⟨by decide +kernel, fun run hrun => ?_⟩
  exact of_decide_eq_true (List.all_eq_true.mp hall run (Array.mem_toList_iff.mpr hrun))

theorem upperRuns_ascii :
    (97, 122, 1, -32) ∈ upperRuns ∧ ∀ run ∈ upperRuns, run = (97, 122, 1, -32) ∨ 128 ≤ run.1 := by
  have hall :
      (upperRuns.toList.all fun run => decide (run = (97, 122, 1, -32) ∨ 128 ≤ run.1)) = true := by
    decide +kernel
  refine ⟨by decide +kernel, fun run hrun => ?_⟩
  exact of_decide_eq_true (List.all_eq_true.mp hall run (Array.mem_toList_iff.mpr hrun))

theorem upperExpansions_ascii {n : Nat} (hn : n < 128) :
    upperExpansions.find? (fun entry => entry.1 == n) = none := by
  have hall : (upperExpansions.toList.all fun entry => decide (128 ≤ entry.1)) = true := by
    decide +kernel
  rw [Array.find?_eq_none]
  intro entry hentry hfound
  have hstart := of_decide_eq_true
    (List.all_eq_true.mp hall entry (Array.mem_toList_iff.mpr hentry))
  rw [beq_iff_eq] at hfound
  omega

theorem lowerCode_ascii {n : Nat} (hn : n < 128) :
    lowerCode n = if 65 ≤ n ∧ n ≤ 90 then n + 32 else n := by
  unfold lowerCode
  rw [find?_ascii lowerRuns_ascii.1 lowerRuns_ascii.2 hn]
  by_cases hmem : 65 ≤ n ∧ n ≤ 90
  · rw [if_pos hmem, if_pos hmem]
    simp only [Int.ofNat_eq_natCast]
    omega
  · rw [if_neg hmem, if_neg hmem]

theorem upperCode_ascii {n : Nat} (hn : n < 128) :
    upperCode n = if 97 ≤ n ∧ n ≤ 122 then n - 32 else n := by
  unfold upperCode
  rw [find?_ascii upperRuns_ascii.1 upperRuns_ascii.2 hn]
  by_cases hmem : 97 ≤ n ∧ n ≤ 122
  · rw [if_pos hmem, if_pos hmem]
    simp only [Int.ofNat_eq_natCast]
    omega
  · rw [if_neg hmem, if_neg hmem]

theorem ofNat_lowerCode {c : Char} (h : c.toNat < 128) :
    Char.ofNat (lowerCode c.toNat) = c.toLower := by
  have hall : ∀ n < 128, Char.ofNat (if 65 ≤ n ∧ n ≤ 90 then n + 32 else n) =
      (Char.ofNat n).toLower := by decide
  rw [lowerCode_ascii h, hall c.toNat h, Char.ofNat_toNat]

theorem ofNat_upperCode {c : Char} (h : c.toNat < 128) :
    Char.ofNat (upperCode c.toNat) = c.toUpper := by
  have hall : ∀ n < 128, Char.ofNat (if 97 ≤ n ∧ n ≤ 122 then n - 32 else n) =
      (Char.ofNat n).toUpper := by decide
  rw [upperCode_ascii h, hall c.toNat h, Char.ofNat_toNat]

/-- A text of the first 128 characters. -/
def Ascii (s : List Char) : Prop :=
  ∀ c ∈ s, c.toNat < 128

instance (s : List Char) : Decidable (Ascii s) :=
  decidable_of_iff (s.all fun c => c.toNat < 128) (by simp [Ascii])

theorem lower_ascii {s : List Char} (h : Ascii s) : lower s = s.map Char.toLower := by
  have hafter : ∀ (before s : List Char), Ascii s →
      lowerAfter before s = s.map Char.toLower := by
    intro before s
    induction s generalizing before with
    | nil => exact fun _ => rfl
    | cons c rest ih =>
        intro h
        have hc : c.toNat < 128 := h c List.mem_cons_self
        have hsigma : c ≠ 'Σ' := fun heq => absurd (heq ▸ hc) (by decide)
        have hdotted : c ≠ 'İ' := fun heq => absurd (heq ▸ hc) (by decide)
        rw [lowerAfter, lowerChar, if_neg hsigma, if_neg hdotted, ofNat_lowerCode hc,
          ih (c :: before) fun d hd => h d (List.mem_cons_of_mem c hd)]
        rfl
  exact hafter [] s h

theorem upper_ascii {s : List Char} (h : Ascii s) : upper s = s.map Char.toUpper := by
  induction s with
  | nil => rfl
  | cons c rest ih =>
      have hc : c.toNat < 128 := h c List.mem_cons_self
      have hrest := ih fun d hd => h d (List.mem_cons_of_mem c hd)
      rw [upper, List.flatMap_cons, ← upper, hrest, upperChar, upperExpansions_ascii hc]
      simp only [ofNat_upperCode hc]
      rfl

end SymbolReference.Text
