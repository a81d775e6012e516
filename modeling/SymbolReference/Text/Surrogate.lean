/-!
Halves of surrogate pairs.

A text may be written with escapes for code points that are no characters: the halves of surrogate
pairs. Each half is kept as a private-use character at a fixed distance from it, so that texts stay
texts of characters, and is turned back where a text is written.
-/

namespace SymbolReference.Text

def standInDistance : Nat := 0x100000

/-- Whether a code point is half of a surrogate pair. -/
def isHalf (n : Nat) : Bool :=
  0xD800 ≤ n && n ≤ 0xDFFF

/-- The character for a code point; half of a pair has a stand-in. -/
def charOfCode (n : Nat) : Char :=
  if isHalf n then Char.ofNat (n + standInDistance) else Char.ofNat n

/-- The code point of a character, or the half that it stands in for. -/
def codeOfChar (c : Char) : Nat :=
  let n := c.toNat
  if standInDistance ≤ n && isHalf (n - standInDistance) then n - standInDistance else n

/-- Whether a character stands in for half of a pair. -/
def isStandIn (c : Char) : Bool :=
  codeOfChar c ≠ c.toNat

/-- The code point of a character that is made from it. -/
theorem toNat_ofNat {n : Nat} (valid : n.isValidChar) : (Char.ofNat n).toNat = n := by
  unfold Char.ofNat
  rw [dif_pos valid]
  rfl

/-- A half is read back from its stand-in. -/
theorem codeOfChar_charOfCode {n : Nat} (h : isHalf n = true) : codeOfChar (charOfCode n) = n := by
  simp only [isHalf, Bool.and_eq_true, decide_eq_true_eq] at h
  have valid : (n + standInDistance).isValidChar := by
    simp only [standInDistance, Nat.isValidChar]
    omega
  simp [charOfCode, codeOfChar, isHalf, h, toNat_ofNat valid]

end SymbolReference.Text
