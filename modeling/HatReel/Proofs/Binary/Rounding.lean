import Mathlib
import HatReel.Binary.Rounding

/-! Rounding a quotient to a format.

The exponent is the only one under which the quotient has a significand of the format's size. So the
code depends on the value of the quotient alone, and a quotient close to a value of the format has
the code of that value. -/

namespace HatReel.Binary

theorem divHalfEven_near {p q n : Nat} (below : 2 * (n * q) < 2 * p + q)
    (above : 2 * p < 2 * (n * q) + q) : divHalfEven p q = n := by
  have positive : 0 < q := by omega
  have parts := Nat.div_add_mod p q
  have less := Nat.mod_lt p positive
  unfold divHalfEven
  generalize p / q = d at *
  generalize p % q = r at *
  have notBelow : n < d + 2 := by
    by_contra far
    have := Nat.mul_le_mul_right q (Nat.le_of_not_lt far)
    nlinarith
  have notAbove : d ≤ n := by
    by_contra far
    have := Nat.mul_le_mul_right q (Nat.lt_of_not_le far)
    nlinarith
  have near : n = d ∨ n = d + 1 := by omega
  rcases near with rfl | rfl
  · have small : 2 * r < q := by nlinarith
    simp [small]
  · have large : q < 2 * r := by nlinarith
    simp [large, Nat.not_lt.mpr large.le]

theorem divHalfEven_scale (p q : Nat) {k : Nat} (positive : 0 < k) :
    divHalfEven (p * k) (q * k) = divHalfEven p q := by
  unfold divHalfEven
  rw [Nat.mul_div_mul_right _ _ positive, Nat.mul_mod_mul_right]
  have scaled : ∀ a b : Nat, a * k < b * k ↔ a < b :=
    fun a b => Nat.mul_lt_mul_right positive
  simp only [← Nat.mul_assoc, scaled]

theorem divHalfEven_congr {p q p' q' : Nat} (positive : 0 < q) (positive' : 0 < q')
    (same : p * q' = p' * q) : divHalfEven p q = divHalfEven p' q' := by
  calc
    divHalfEven p q = divHalfEven (p * q') (q * q') := (divHalfEven_scale p q positive').symm
    _ = divHalfEven (p' * q) (q' * q) := by rw [same, Nat.mul_comm q q']
    _ = divHalfEven p' q' := divHalfEven_scale p' q' positive

theorem shiftUp_pos {n : Nat} (positive : 0 < n) (e : Int) : 0 < shiftUp n e :=
  Nat.mul_pos positive (Nat.two_pow_pos _)

theorem cast_shiftUp (n : Nat) (e : Int) : (shiftUp n e : ℚ) = n * 2 ^ (e.toNat : Int) := by
  rw [shiftUp, zpow_natCast]
  push_cast
  rfl

/-- Numerator and denominator shifted against each other divide the quotient by a power of two. -/
theorem shiftUp_div (p q : Nat) (e : Int) :
    (shiftUp p (-e) : ℚ) / shiftUp q e = p / q / 2 ^ e := by
  have split : (2 : ℚ) ^ e = 2 ^ (e.toNat : Int) / 2 ^ ((-e).toNat : Int) := by
    rw [← zpow_sub₀ two_ne_zero]
    congr 1
    omega
  rw [cast_shiftUp, cast_shiftUp, split]
  have left : (2 : ℚ) ^ (e.toNat : Int) ≠ 0 := zpow_ne_zero _ two_ne_zero
  have right : (2 : ℚ) ^ ((-e).toNat : Int) ≠ 0 := zpow_ne_zero _ two_ne_zero
  field_simp

/-- Whether a value has its last bit at this exponent. -/
structure Format.Fits (f : Format) (x : ℚ) (e : Int) : Prop where
  least : f.lowest ≤ e
  below : x < 2 ^ (e + f.precision)
  full : f.lowest < e → 2 ^ (e + f.precision - 1) ≤ x

theorem two_zpow_lt {a b : Int} (less : (2 : ℚ) ^ a < 2 ^ b) : a < b :=
  (zpow_lt_zpow_iff_right₀ one_lt_two).mp less

theorem Format.Fits.unique {f : Format} {x : ℚ} {e e' : Int} (fits : f.Fits x e)
    (fits' : f.Fits x e') : e = e' := by
  have notLess {a b : Int} (one : f.Fits x a) (other : f.Fits x b) : ¬ a < b := by
    intro less
    have full := other.full (lt_of_le_of_lt one.least less)
    have := two_zpow_lt (lt_of_le_of_lt full one.below)
    omega
  have := notLess fits fits'
  have := notLess fits' fits
  omega

/-- The lengths of numerator and denominator give the size of a quotient up to a factor of two. -/
theorem log2_bounds {p q : Nat} (top : 0 < p) (bottom : 0 < q) :
    (2 : ℚ) ^ ((p.log2 : Int) - q.log2 - 1) < p / q ∧
      (p : ℚ) / q < 2 ^ ((p.log2 : Int) - q.log2 + 1) := by
  have atLeast : ∀ n : Nat, 0 < n → (2 : ℚ) ^ (n.log2 : Int) ≤ n := by
    intro n positive
    rw [zpow_natCast]
    exact_mod_cast Nat.log2_self_le positive.ne'
  have less : ∀ n : Nat, (n : ℚ) < 2 ^ ((n.log2 : Int) + 1) := by
    intro n
    have := @Nat.lt_log2_self n
    have cast : (2 : ℚ) ^ ((n.log2 : Int) + 1) = ((2 ^ (n.log2 + 1) : Nat) : ℚ) := by
      push_cast
      rw [← zpow_natCast]
      norm_cast
    rw [cast]
    exact_mod_cast this
  have positive : (0 : ℚ) < q := by exact_mod_cast bottom
  constructor
  · rw [lt_div_iff₀ positive]
    calc
      (2 : ℚ) ^ ((p.log2 : Int) - q.log2 - 1) * q
          < 2 ^ ((p.log2 : Int) - q.log2 - 1) * 2 ^ ((q.log2 : Int) + 1) :=
        mul_lt_mul_of_pos_left (less q) (zpow_pos two_pos _)
      _ = 2 ^ (p.log2 : Int) := by
        rw [← zpow_add₀ two_ne_zero]
        congr 1
        ring
      _ ≤ p := atLeast p top
  · rw [div_lt_iff₀ positive]
    calc
      (p : ℚ) < 2 ^ ((p.log2 : Int) + 1) := less p
      _ = 2 ^ ((p.log2 : Int) - q.log2 + 1) * 2 ^ (q.log2 : Int) := by
        rw [← zpow_add₀ two_ne_zero]
        congr 1
        ring
      _ ≤ 2 ^ ((p.log2 : Int) - q.log2 + 1) * q :=
        mul_le_mul_of_nonneg_left (atLeast q bottom) (zpow_pos two_pos _).le

theorem Format.exponent_fits {f : Format} (precise : 0 < f.precision) {p q : Nat} (top : 0 < p)
    (bottom : 0 < q) : f.Fits (p / q) (f.exponent p q) := by
  obtain ⟨above, below⟩ := log2_bounds top bottom
  unfold Format.exponent
  simp only []
  generalize isFirst : (p.log2 : Int) - (q.log2 : Int) - ((f.precision : Int) - 1) = first at *
  have compared : shiftUp p (-first) < shiftUp q first * 2 ^ (f.precision - 1) ↔
      (p : ℚ) / q < 2 ^ (first + f.precision - 1) := by
    have positive : (0 : ℚ) < shiftUp q first := by exact_mod_cast shiftUp_pos bottom first
    have cast : ((2 ^ (f.precision - 1) : Nat) : ℚ) = 2 ^ ((f.precision : Int) - 1) := by
      push_cast
      rw [← zpow_natCast]
      congr 1
      omega
    rw [← Nat.cast_lt (α := ℚ), Nat.cast_mul, cast, mul_comm, ← div_lt_iff₀ positive,
      shiftUp_div, div_lt_iff₀ (zpow_pos two_pos _), ← zpow_add₀ two_ne_zero]
    have sum : (f.precision : Int) - 1 + first = first + f.precision - 1 := by ring
    rw [sum]
  have fits (e : Int) (upper : (p : ℚ) / q < 2 ^ (e + f.precision))
      (lower : (2 : ℚ) ^ (e + f.precision - 1) ≤ p / q) :
      f.Fits (p / q) (max e f.lowest) := by
    refine ⟨le_max_right _ _, lt_of_lt_of_le upper ?_, fun more => ?_⟩
    · exact zpow_le_zpow_right₀ one_le_two (by omega)
    · have isE : max e f.lowest = e := by omega
      rw [isE]
      exact lower
  split
  · next small =>
    apply fits
    · have sum : first - 1 + f.precision = first + f.precision - 1 := by ring
      rw [sum]
      exact compared.mp small
    · have sum : first - 1 + f.precision - 1 = (p.log2 : Int) - q.log2 - 1 := by omega
      rw [sum]
      exact above.le
  · next large =>
    apply fits
    · have sum : first + f.precision = (p.log2 : Int) - q.log2 + 1 := by omega
      rw [sum]
      exact below
    · exact not_lt.mp fun small => large (compared.mpr small)

/-- Within half of the unit `2 ^ e` of a multiple of it. -/
theorem near_multiple (x : ℚ) (n : Nat) (e : Int) :
    |x / 2 ^ e - n| < 1 / 2 ↔ |x - n * 2 ^ e| < 2 ^ (e - 1) := by
  have unit : (0 : ℚ) < 2 ^ e := zpow_pos two_pos _
  rw [div_sub' unit.ne', abs_div, abs_of_pos unit, div_lt_iff₀ unit, mul_comm (2 ^ e : ℚ),
    zpow_sub_one₀ two_ne_zero, one_div, mul_comm (2⁻¹ : ℚ)]

/-- A quotient whose size is that of the exponent `e`, near to a whole number of its last bits. -/
theorem Format.code_of_fits {f : Format} (precise : 0 < f.precision) {p q n : Nat} {e : Int}
    (top : 0 < p) (bottom : 0 < q) (fits : f.Fits (p / q) e)
    (near : |(p : ℚ) / q - n * 2 ^ e| < 2 ^ (e - 1)) :
    f.code p q = min f.infinity ((e - f.lowest).toNat * 2 ^ (f.precision - 1) + n) := by
  have isExponent : f.exponent p q = e := (f.exponent_fits precise top bottom).unique fits
  have positive : (0 : ℚ) < shiftUp q e := by exact_mod_cast shiftUp_pos bottom e
  have rounded : divHalfEven (shiftUp p (-e)) (shiftUp q e) = n := by
    rw [← near_multiple, ← shiftUp_div, abs_sub_lt_iff] at near
    obtain ⟨above, below⟩ := near
    rw [sub_lt_iff_lt_add, div_lt_iff₀ positive] at above
    rw [sub_lt_comm, lt_div_iff₀ positive] at below
    apply divHalfEven_near
    · rw [← Nat.cast_lt (α := ℚ)]
      push_cast
      linarith
    · rw [← Nat.cast_lt (α := ℚ)]
      push_cast
      linarith
  unfold Format.code
  rw [if_neg top.ne', isExponent]
  simp only [rounded]

theorem Format.code_congr {f : Format} (precise : 0 < f.precision) {p q p' q' : Nat}
    (bottom : 0 < q) (bottom' : 0 < q') (same : (p : ℚ) / q = p' / q') :
    f.code p q = f.code p' q' := by
  have cast : (q : ℚ) ≠ 0 := by exact_mod_cast bottom.ne'
  have cast' : (q' : ℚ) ≠ 0 := by exact_mod_cast bottom'.ne'
  by_cases zero : p = 0
  · have zero' : p' = 0 := by
      rw [zero, Nat.cast_zero, zero_div, eq_comm, div_eq_zero_iff] at same
      exact_mod_cast same.resolve_right cast'
    rw [zero, zero']
    simp [Format.code]
  · have top : 0 < p := Nat.pos_of_ne_zero zero
    have top' : 0 < p' := by
      apply Nat.pos_of_ne_zero
      intro zero'
      rw [zero', Nat.cast_zero, zero_div, div_eq_zero_iff] at same
      exact zero (by exact_mod_cast same.resolve_right cast)
    have fits := f.exponent_fits precise top bottom
    have fits' := f.exponent_fits precise top' bottom'
    rw [← same] at fits'
    have isSame := fits.unique fits'
    have rounded : divHalfEven (shiftUp p (-f.exponent p q)) (shiftUp q (f.exponent p q)) =
        divHalfEven (shiftUp p' (-f.exponent p q)) (shiftUp q' (f.exponent p q)) := by
      have positive := shiftUp_pos bottom (f.exponent p q)
      have positive' := shiftUp_pos bottom' (f.exponent p q)
      apply divHalfEven_congr positive positive'
      have scaled := shiftUp_div p q (f.exponent p q)
      rw [same, ← shiftUp_div, div_eq_div_iff (by exact_mod_cast positive.ne')
        (by exact_mod_cast positive'.ne')] at scaled
      exact_mod_cast scaled
    unfold Format.code
    rw [if_neg zero, if_neg top'.ne', ← isSame]
    simp only [rounded]

/-- A significand of the format with the exponent of its last bit: a value of the format. -/
structure Format.Represents (f : Format) (m : Nat) (e : Int) : Prop where
  positive : 0 < m
  least : f.lowest ≤ e
  below : m < 2 ^ f.precision
  full : f.lowest < e → 2 ^ (f.precision - 1) ≤ m

theorem two_zpow_cast (n : Nat) : (2 : ℚ) ^ (n : Int) = ((2 ^ n : Nat) : ℚ) := by
  rw [zpow_natCast]
  push_cast
  rfl

/-- A share of a multiple of `2 ^ e` in units of `2 ^ e`, if there are at most `2 ^ k` of them. -/
theorem near_share {x : ℚ} {m : Nat} {e k j : Int} (near : |x| * 2 ^ (k + j) < m * 2 ^ e)
    (most : (m : ℚ) ≤ 2 ^ k) : |x| < 2 ^ (e - j) := by
  have positive : (0 : ℚ) < 2 ^ (k + j) := zpow_pos two_pos _
  apply lt_of_mul_lt_mul_right _ positive.le
  calc
    |x| * 2 ^ (k + j) < m * 2 ^ e := near
    _ ≤ 2 ^ k * 2 ^ e := mul_le_mul_of_nonneg_right most (zpow_pos two_pos _).le
    _ = 2 ^ (e - j) * 2 ^ (k + j) := by
      rw [← zpow_add₀ two_ne_zero, ← zpow_add₀ two_ne_zero]
      congr 1
      ring

section

variable {f : Format} {p q m : Nat} {e : Int}

theorem Format.cast_least (precise : 0 < f.precision) (e : Int) :
    ((2 ^ (f.precision - 1) : Nat) : ℚ) * 2 ^ e = 2 ^ (e + f.precision - 1) := by
  rw [← two_zpow_cast, ← zpow_add₀ two_ne_zero]
  congr 1
  omega

/-- The code of a quotient in the binade of the value that it is close to. -/
theorem Format.code_inside (precise : 0 < f.precision) (top : 0 < p) (bottom : 0 < q)
    (value : f.Represents m e) (near : |(p : ℚ) / q - m * 2 ^ e| < 2 ^ (e - 1))
    (full : f.lowest < e → (2 : ℚ) ^ (e + f.precision - 1) ≤ p / q) :
    f.code p q = min f.infinity ((e - f.lowest).toNat * 2 ^ (f.precision - 1) + m) := by
  have less : (m : ℚ) + 1 ≤ 2 ^ (f.precision : Int) := by
    rw [two_zpow_cast]
    exact_mod_cast value.below
  have half : (2 : ℚ) ^ (e - 1) ≤ 2 ^ e := zpow_le_zpow_right₀ one_le_two (by omega)
  have below : (p : ℚ) / q < 2 ^ (e + f.precision) := by
    calc
      (p : ℚ) / q < m * 2 ^ e + 2 ^ (e - 1) := by linarith [(abs_sub_lt_iff.mp near).1]
      _ ≤ (m + 1) * 2 ^ e := by linarith
      _ ≤ 2 ^ (f.precision : Int) * 2 ^ e :=
        mul_le_mul_of_nonneg_right less (zpow_pos two_pos _).le
      _ = 2 ^ (e + f.precision) := by rw [← zpow_add₀ two_ne_zero, add_comm]
  exact f.code_of_fits precise top bottom ⟨value.least, below, full⟩ near

/-- Just below a power of two the last bit is half as wide as above, and the codes go on without a
gap. -/
theorem Format.code_beneath (precise : 0 < f.precision) (top : 0 < p) (bottom : 0 < q)
    (more : f.lowest < e) (near : |(p : ℚ) / q - 2 ^ (e + f.precision - 1)| < 2 ^ (e - 2))
    (beneath : (p : ℚ) / q < 2 ^ (e + f.precision - 1)) :
    f.code p q =
      min f.infinity ((e - f.lowest).toNat * 2 ^ (f.precision - 1) + 2 ^ (f.precision - 1)) := by
  have next : e - 1 + (f.precision : Int) = e + f.precision - 1 := by ring
  have double : (2 : ℚ) ^ (e + f.precision - 1) = 2 * 2 ^ (e - 1 + f.precision - 1) := by
    rw [← zpow_one_add₀ two_ne_zero]
    congr 1
    ring
  have quarter : (2 : ℚ) ^ (e - 2) ≤ 2 ^ (e - 1 + f.precision - 1) :=
    zpow_le_zpow_right₀ one_le_two (by omega)
  have fits : f.Fits (p / q) (e - 1) := by
    refine ⟨by omega, by rwa [next], fun _ => ?_⟩
    linarith [(abs_sub_lt_iff.mp near).2]
  have power : ((2 ^ f.precision : Nat) : ℚ) * 2 ^ (e - 1) = 2 ^ (e + f.precision - 1) := by
    rw [← two_zpow_cast, ← zpow_add₀ two_ne_zero, add_comm, next]
  rw [← power, show e - 2 = e - 1 - 1 by ring] at near
  rw [f.code_of_fits precise top bottom fits near]
  have steps : (e - f.lowest).toNat = (e - 1 - f.lowest).toNat + 1 := by omega
  have twice : 2 ^ f.precision = 2 ^ (f.precision - 1) + 2 ^ (f.precision - 1) := by
    rw [← Nat.two_mul, ← Nat.pow_succ', Nat.succ_eq_add_one, Nat.sub_add_cancel precise]
  rw [steps, twice, Nat.add_mul, Nat.one_mul, Nat.add_assoc]

/-- Only the least value of a binade is close to numbers beneath the binade. -/
theorem Format.Represents.isLeast (precise : 0 < f.precision) (value : f.Represents m e)
    (more : f.lowest < e) {x : ℚ} (near : |x - m * 2 ^ e| < 2 ^ (e - 1))
    (beneath : x < 2 ^ (e + f.precision - 1)) : m = 2 ^ (f.precision - 1) := by
  apply Nat.le_antisymm _ (value.full more)
  by_contra larger
  have next : ((2 ^ (f.precision - 1) : Nat) : ℚ) + 1 ≤ m := by
    exact_mod_cast Nat.lt_of_not_le larger
  have room := mul_le_mul_of_nonneg_right next (zpow_pos (two_pos (α := ℚ)) e).le
  have half : (2 : ℚ) ^ (e - 1) ≤ 2 ^ e := zpow_le_zpow_right₀ one_le_two (by omega)
  rw [← f.cast_least precise] at beneath
  linarith [(abs_sub_lt_iff.mp near).2]

/-- A quotient has the code of a value of the format if it is closer to it than half of a last bit,
which below a power of two is only half as wide. -/
theorem Format.code_near (precise : 0 < f.precision) (top : 0 < p) (bottom : 0 < q)
    (value : f.Represents m e)
    (near : |(p : ℚ) / q - m * 2 ^ e| * 2 ^ ((f.precision : Int) + 1) < m * 2 ^ e) :
    f.code p q = min f.infinity ((e - f.lowest).toNat * 2 ^ (f.precision - 1) + m) := by
  have close : |(p : ℚ) / q - m * 2 ^ e| < 2 ^ (e - 1) := by
    apply near_share near
    rw [two_zpow_cast]
    exact_mod_cast value.below.le
  by_cases full : f.lowest < e → (2 : ℚ) ^ (e + f.precision - 1) ≤ p / q
  · exact f.code_inside precise top bottom value close full
  · obtain ⟨more, notAbove⟩ := Classical.not_imp.mp full
    have beneath := not_le.mp notAbove
    obtain rfl := value.isLeast precise more close beneath
    have sum : (f.precision : Int) + 1 = ((f.precision - 1 : Nat) : Int) + 2 := by omega
    rw [sum] at near
    have closer := near_share near (two_zpow_cast _).ge
    rw [f.cast_least precise] at closer
    exact f.code_beneath precise top bottom more closer beneath

end

end HatReel.Binary
