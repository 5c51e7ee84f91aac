import HatReel.Draw.Clip
import HatReel.Proofs.Binary.Rounding
import Mathlib.Order.Interval.Set.UnorderedInterval

/-! A segment is cut inside of itself.

The quotient that moves an end is computed in double precision, and its two roundings are too small
to lead beyond the other end once the fraction is dropped. So the ends of a segment that has been
cut lie in every rectangle that holds the ends of the whole segment. -/

namespace HatReel.Binary

theorem divHalfEven_le (p : Nat) {q : Nat} (positive : 0 < q) :
    2 * (divHalfEven p q * q) ≤ 2 * p + q := by
  have parts := Nat.div_add_mod p q
  have less := Nat.mod_lt p positive
  rw [Nat.mul_comm] at parts
  unfold divHalfEven
  generalize p / q = d at *
  generalize p % q = r at *
  have next : (d + 1) * q = d * q + q := Nat.succ_mul d q
  simp only []
  split
  · omega
  · split
    · omega
    · have atMost : (d + d % 2) * q ≤ (d + 1) * q := Nat.mul_le_mul_right q (by omega)
      omega

end HatReel.Binary

namespace HatReel.Draw

open HatReel.Binary

/-- A quotient in double precision exceeds the quotient by a share of itself at most, or by
little. -/
theorem roundQuotient_le (p : Nat) {q : Nat} (bottom : 0 < q) :
    0 < (roundQuotient p q).2 ∧
      ((roundQuotient p q).1 : ℚ) / (roundQuotient p q).2 ≤ p / q * (1 + 1 / 2 ^ 53) + 1 / 4 := by
  refine ⟨Nat.two_pow_pos _, ?_⟩
  unfold roundQuotient
  simp only
  generalize isExponent : double.exponent p q = e
  generalize isCount : divHalfEven (shiftUp p (-e)) (shiftUp q e) = n
  have positive : (0 : ℚ) < 2 ^ e := zpow_pos two_pos _
  have size : (0 : ℚ) ≤ p / q := by positivity
  have isValue : (shiftUp n e : ℚ) / ((2 ^ (-e).toNat : Nat) : ℚ) = n * 2 ^ e := by
    have shifted := shiftUp_div n 1 (-e)
    rw [neg_neg, Nat.cast_one, div_one, zpow_neg, div_inv_eq_mul] at shifted
    rw [← shifted, shiftUp, shiftUp, Nat.one_mul]
  have count : (n : ℚ) ≤ p / q / 2 ^ e + 1 / 2 := by
    have shifted : 0 < shiftUp q e := shiftUp_pos bottom e
    have rounded := divHalfEven_le (shiftUp p (-e)) shifted
    rw [isCount] at rounded
    have cast : (2 * ((n : ℚ) * shiftUp q e)) ≤ 2 * shiftUp p (-e) + shiftUp q e := by
      exact_mod_cast rounded
    rw [← shiftUp_div, ← sub_le_iff_le_add, le_div_iff₀ (by exact_mod_cast shifted)]
    linarith
  have value : (n : ℚ) * 2 ^ e ≤ p / q + 2 ^ e / 2 := by
    have scaled := mul_le_mul_of_nonneg_right count positive.le
    rwa [add_mul, div_mul_cancel₀ _ positive.ne', one_div, inv_mul_eq_div] at scaled
  have last : (2 : ℚ) ^ e / 2 ≤ p / q * (1 / 2 ^ 53) + 1 / 4 := by
    rcases lt_or_ge e 0 with small | large
    · have half : (2 : ℚ) ^ e ≤ 2 ^ (-1 : Int) := zpow_le_zpow_right₀ one_le_two (by omega)
      rw [zpow_neg, zpow_one] at half
      linarith [mul_nonneg size (by positivity : (0 : ℚ) ≤ 1 / 2 ^ 53)]
    · have top : 0 < p := by
        rcases Nat.eq_zero_or_pos p with rfl | top
        · rw [← isExponent] at large
          revert large
          unfold Format.exponent double
          simp
          omega
        · exact top
      have fits := Format.exponent_fits (f := double) (by decide) top bottom
      rw [isExponent] at fits
      have full := fits.full (by unfold double; simp only; omega)
      have split : (2 : ℚ) ^ (e + ((53 : Nat) : Int) - 1) = 2 ^ e * 2 ^ 52 := by
        rw [show e + ((53 : Nat) : Int) - 1 = e + (52 : Nat) by push_cast; ring,
          zpow_add₀ two_ne_zero, zpow_natCast]
      change (2 : ℚ) ^ (e + ((53 : Nat) : Int) - 1) ≤ _ at full
      rw [split] at full
      linarith
  rw [isValue]
  linarith

/-- A share of a number is not more than the number, in spite of rounding. -/
theorem share_le {a b c : Nat} (share : a ≤ c) (positive : 0 < c) (small : b ≤ 2 ^ 40) :
    let first := roundQuotient (a * b) 1
    let second := roundQuotient first.1 (first.2 * c)
    second.1 / second.2 ≤ b := by
  intro first second
  obtain ⟨bottom, product⟩ := roundQuotient_le (a * b) (q := 1) Nat.one_pos
  change 0 < first.2 at bottom
  change (first.1 : ℚ) / first.2 ≤ _ at product
  obtain ⟨bottom', quotient⟩ :=
    roundQuotient_le first.1 (q := first.2 * c) (Nat.mul_pos bottom positive)
  change 0 < second.2 at bottom'
  change (second.1 : ℚ) / second.2 ≤ _ at quotient
  have atLeast : (1 : ℚ) ≤ c := by exact_mod_cast positive
  have bound : (b : ℚ) ≤ 2 ^ 40 := by exact_mod_cast small
  have fraction : (first.1 : ℚ) / (first.2 * c : Nat) ≤ b * (1 + 1 / 2 ^ 53) + 1 / 4 := by
    have whole : ((a * b : Nat) : ℚ) ≤ c * b := by exact_mod_cast Nat.mul_le_mul_right b share
    rw [Nat.cast_mul, ← div_div, div_le_iff₀ (by linarith)]
    rw [Nat.cast_one, div_one] at product
    nlinarith
  have less : (second.1 : ℚ) / second.2 < b + 1 := by
    calc
      (second.1 : ℚ) / second.2 ≤ (b * (1 + 1 / 2 ^ 53) + 1 / 4) * (1 + 1 / 2 ^ 53) + 1 / 4 := by
        refine quotient.trans ?_
        have factor : (0 : ℚ) ≤ 1 + 1 / 2 ^ 53 := by positivity
        linarith [mul_le_mul_of_nonneg_right fraction factor]
      _ < b + 1 := by
        norm_num
        linarith
  rw [div_lt_iff₀ (by exact_mod_cast bottom')] at less
  refine Nat.lt_succ_iff.mp ((Nat.div_lt_iff_lt_mul bottom').mpr ?_)
  exact_mod_cast less

/-- Where `a` lies between zero and `c`, the quotient lies between zero and `b`. -/
theorem scaledQuotient_between {a b c : Int} (share : a ∈ Set.uIcc 0 c)
    (small : b.natAbs ≤ 2 ^ 40) :
    scaledQuotient a b c ∈ Set.uIcc 0 b := by
  rw [Set.mem_uIcc] at share ⊢
  unfold scaledQuotient
  split
  · omega
  · next nonzero =>
    simp only [Bool.or_eq_true, decide_eq_true_eq, not_or] at nonzero
    have within :=
      share_le (a := a.natAbs) (b := b.natAbs) (c := c.natAbs) (by omega) (by omega) small
    simp only at within ⊢
    generalize (roundQuotient (roundQuotient (a.natAbs * b.natAbs) 1).1
      ((roundQuotient (a.natAbs * b.natAbs) 1).2 * c.natAbs)) = r at within ⊢
    generalize r.1 / r.2 = n at within ⊢
    have sign : (decide (a < 0) != (decide (b < 0) != decide (c < 0))) = decide (b < 0) := by
      rcases share with ⟨low, high⟩ | ⟨low, high⟩
      · rw [decide_eq_false (by omega : ¬ a < 0), decide_eq_false (by omega : ¬ c < 0)]
        cases decide (b < 0) <;> rfl
      · rw [decide_eq_true (by omega : a < 0), decide_eq_true (by omega : c < 0)]
        cases decide (b < 0) <;> rfl
    rw [sign]
    by_cases negative : b < 0
    · rw [decide_eq_true negative, if_pos rfl]
      omega
    · rw [decide_eq_false negative, if_neg Bool.false_ne_true]
      omega

/-- A rectangle of points, its borders included. -/
structure Extent where
  left : Int
  top : Int
  right : Int
  bottom : Int

structure Extent.Holds (e : Extent) (p : Point) : Prop where
  left : e.left ≤ p.x
  right : p.x ≤ e.right
  top : e.top ≤ p.y
  bottom : p.y ≤ e.bottom

/-- A rectangle whose sides are not too long for a share of them to be computed well. -/
structure Extent.IsSmall (e : Extent) : Prop where
  wide : e.right - e.left ≤ 2 ^ 40
  high : e.bottom - e.top ≤ 2 ^ 40

def Extent.swap (e : Extent) : Extent := ⟨e.top, e.left, e.bottom, e.right⟩

theorem Extent.Holds.swap {e : Extent} {p : Point} (holds : e.Holds p) : e.swap.Holds ⟨p.y, p.x⟩ :=
  ⟨holds.top, holds.bottom, holds.left, holds.right⟩

theorem Extent.IsSmall.swap {e : Extent} (small : e.IsSmall) : e.swap.IsSmall :=
  ⟨small.high, small.wide⟩

section

variable {e : Extent} {a b : Point} {high : Int}

theorem side_border {v : Int} : (side high v = .inside ↔ 0 ≤ v ∧ v ≤ high) ∧
    (side high v = .below ↔ v < 0) ∧ (side high v = .above ↔ 0 ≤ v ∧ high < v) := by
  unfold side
  split
  · simp
    omega
  · split <;> simp <;> omega

/-- A point that is moved along a segment onto a horizontal border stays in the rectangle, and is
between the borders then. -/
theorem cutVertical_holds (small : e.IsSmall) (first : e.Holds a) (second : e.Holds b)
    (nonneg : 0 ≤ high) (apart : sameSide (side high a.y) (side high b.y) = false) :
    e.Holds (cutVertical high a b) ∧ side high (cutVertical high a b).y = .inside := by
  obtain ⟨aLeft, aRight, aTop, aBottom⟩ := first
  obtain ⟨bLeft, bRight, bTop, bBottom⟩ := second
  obtain ⟨wide, -⟩ := small
  obtain ⟨isInside, isBelow, isAbove⟩ := @side_border high a.y
  obtain ⟨inside', below', above'⟩ := @side_border high b.y
  have moved {y : Int} (share : y - a.y ∈ Set.uIcc 0 (b.y - a.y)) (low : e.top ≤ y)
    (up : y ≤ e.bottom) :
      e.Holds ⟨a.x + scaledQuotient (y - a.y) (b.x - a.x) (b.y - a.y), y⟩ := by
    have between := scaledQuotient_between (b := b.x - a.x) share (by omega)
    rw [Set.mem_uIcc] at between
    refine ⟨?_, ?_, low, up⟩ <;> simp only <;> omega
  unfold cutVertical
  cases isSide : side high a.y with
  | inside => exact ⟨⟨aLeft, aRight, aTop, aBottom⟩, isSide⟩
  | below =>
      have before := isBelow.mp isSide
      have notBelow : ¬ b.y < 0 := by
        intro also
        rw [isSide, below'.mpr also] at apart
        cases apart
      refine ⟨moved (Set.mem_uIcc.mpr ?_) ?_ ?_, (@side_border high 0).1.mpr ⟨le_rfl, nonneg⟩⟩ <;>
        simp only [Side.border] <;> omega
  | above =>
      have behind := isAbove.mp isSide
      have notAbove : ¬ (0 ≤ b.y ∧ high < b.y) := by
        intro also
        rw [isSide, above'.mpr also] at apart
        cases apart
      refine ⟨moved (Set.mem_uIcc.mpr ?_) ?_ ?_,
        (@side_border high high).1.mpr ⟨nonneg, le_rfl⟩⟩ <;>
        simp only [Side.border] <;> omega

theorem cutHorizontal_swap (a b : Point) :
    cutHorizontal high a b = ⟨(cutVertical high ⟨a.y, a.x⟩ ⟨b.y, b.x⟩).y,
      (cutVertical high ⟨a.y, a.x⟩ ⟨b.y, b.x⟩).x⟩ := by
  unfold cutHorizontal cutVertical
  simp only
  cases side high a.x <;> rfl

theorem cutHorizontal_holds (small : e.IsSmall) (first : e.Holds a) (second : e.Holds b)
    (nonneg : 0 ≤ high) (apart : sameSide (side high a.x) (side high b.x) = false) :
    e.Holds (cutHorizontal high a b) ∧ side high (cutHorizontal high a b).x = .inside := by
  obtain ⟨holds, inside⟩ := cutVertical_holds small.swap first.swap second.swap nonneg apart
  rw [cutHorizontal_swap]
  exact ⟨holds.swap, inside⟩

end

theorem clip?_holds {e : Extent} {width height : Int} {s inner : Segment} (small : e.IsSmall)
    (first : e.Holds s.a) (second : e.Holds s.b) (clipped : clip? width height s = some inner) :
    e.Holds inner.a ∧ e.Holds inner.b := by
  unfold clip? at clipped
  simp only at clipped
  split at clipped
  · cases clipped
  · next within =>
    simp only [Bool.or_eq_true, decide_eq_true_eq, not_or, isBeyond, Bool.not_eq_true] at within
    obtain ⟨⟨wide, high⟩, -, apart⟩ := within
    have vertical : 0 ≤ height - 1 := by omega
    have horizontal : 0 ≤ width - 1 := by omega
    obtain ⟨aHolds, aInside⟩ := cutVertical_holds small first second vertical apart
    have apart' : sameSide (side (height - 1) s.b.y)
        (side (height - 1) (cutVertical (height - 1) s.a s.b).y) = false := by
      rw [aInside]
      cases side (height - 1) s.b.y <;> rfl
    obtain ⟨bHolds, -⟩ := cutVertical_holds small second aHolds vertical apart'
    split at clipped
    · cases clipped
    · next near =>
      rw [Bool.not_eq_true] at near
      cases clipped
      obtain ⟨cHolds, cInside⟩ := cutHorizontal_holds small aHolds bHolds horizontal near
      refine ⟨cHolds, (cutHorizontal_holds small bHolds cHolds horizontal ?_).1⟩
      rw [cInside]
      generalize side (width - 1) (cutVertical _ _ _).x = t
      cases t <;> rfl

end HatReel.Draw
