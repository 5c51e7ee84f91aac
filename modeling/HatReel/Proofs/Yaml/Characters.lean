import HatReel.Yaml.Style

/-! Classes of characters by their numbers. -/

namespace HatReel.Yaml

open HatReel.Text

theorem char_eq_iff (c d : Char) : c = d ↔ c.toNat = d.toNat := Char.toNat_inj.symm

theorem isBreak_iff (c : Char) : isBreak c = true ↔
    c.toNat = 10 ∨ c.toNat = 0x85 ∨ c.toNat = 0x2028 ∨ c.toNat = 0x2029 := by
  simp only [isBreak, Bool.or_eq_true, beq_iff_eq, char_eq_iff, or_assoc]
  rfl

theorem isGap_iff (c : Char) : isGap c = true ↔ c.toNat = 32 ∨ c.toNat = 9 := by
  simp only [isGap, Bool.or_eq_true, beq_iff_eq, char_eq_iff]
  rfl

theorem isGapOrEnd_iff (c : Char) : isGapOrEnd c = true ↔
    c.toNat = 9 ∨ c.toNat = 32 ∨ c.toNat = 0 ∨ isBreak c = true := by
  simp only [isGapOrEnd, isSpaceOrEnd, isBreakOrEnd, Bool.or_eq_true, beq_iff_eq, char_eq_iff]
  rfl

theorem isPrintableAscii_iff (c : Char) :
    isPrintableAscii c = true ↔ 32 ≤ c.toNat ∧ c.toNat ≤ 126 := by
  simp [isPrintableAscii]

theorem isSpecial_iff (c : Char) :
    isSpecial c = false ↔ c.toNat = 10 ∨ (32 ≤ c.toNat ∧ c.toNat ≤ 126) := by
  simp only [isSpecial, Bool.not_eq_false', Bool.or_eq_true, beq_iff_eq, char_eq_iff,
    isPrintableAscii_iff]
  rfl

def isVisible (c : Char) : Bool := 33 ≤ c.toNat && c.toNat ≤ 126

theorem isVisible_iff (c : Char) : isVisible c = true ↔ 33 ≤ c.toNat ∧ c.toNat ≤ 126 := by
  simp [isVisible]

theorem isBreak_visible {c : Char} (visible : isVisible c = true) : isBreak c = false := by
  rw [isVisible_iff] at visible
  rw [Bool.eq_false_iff, Ne, isBreak_iff]
  omega

theorem isGap_visible {c : Char} (visible : isVisible c = true) : isGap c = false := by
  rw [isVisible_iff] at visible
  rw [Bool.eq_false_iff, Ne, isGap_iff]
  omega

theorem isGapOrEnd_visible {c : Char} (visible : isVisible c = true) : isGapOrEnd c = false := by
  have noBreak := isBreak_visible visible
  rw [isVisible_iff] at visible
  rw [Bool.eq_false_iff, Ne, isGapOrEnd_iff, noBreak]
  simp only [Bool.false_eq_true, or_false]
  omega

theorem isSpecial_visible {c : Char} (visible : isVisible c = true) : isSpecial c = false := by
  rw [isVisible_iff] at visible
  rw [isSpecial_iff]
  omega

theorem ne_of_visible {c d : Char} (visible : isVisible c = true) (other : isVisible d = false) :
    c ≠ d := by
  rintro rfl
  rw [visible] at other
  cases other

end HatReel.Yaml
