import Mathlib
import HatReel.Proofs.Binary.Double
import HatReel.Proofs.Decimal.Digits

/-! The shortest decimal of a double reads back.

With seventeen digits a neighbour on the decimal grid is closer to the double than half the way to
the next one, so some neighbour reads back with seventeen digits at the latest. -/

namespace HatReel.Decimal

open HatReel.Binary

def Scaled.value (s : Scaled) : ℚ := s.coefficient * 10 ^ s.exponent

theorem cast_ten_pow (n : Nat) : ((10 ^ n : Nat) : ℚ) = 10 ^ (n : Int) := by
  rw [zpow_natCast]
  push_cast
  rfl

theorem ten_pow_div (e : Int) :
    ((10 ^ e.toNat : Nat) : ℚ) / ((10 ^ (-e).toNat : Nat) : ℚ) = 10 ^ e := by
  rw [cast_ten_pow, cast_ten_pow, ← zpow_sub₀ (by norm_num)]
  congr 1
  omega

theorem ten_pow_pos (n : Nat) : 0 < 10 ^ n := Nat.pow_pos (by decide)

theorem scaled_div (n : Nat) (e : Int) :
    ((n * 10 ^ e.toNat : Nat) : ℚ) / ((10 ^ (-e).toNat : Nat) : ℚ) = n * 10 ^ e := by
  rw [Nat.cast_mul, mul_div_assoc, ten_pow_div]

theorem scaleDown_div (p q : Nat) (e : Int) :
    ((scaleDown p q e).1 : ℚ) / (scaleDown p q e).2 = p / q / 10 ^ e := by
  unfold scaleDown
  rw [Nat.cast_mul, Nat.cast_mul, mul_div_mul_comm, div_eq_mul_inv (p / q : ℚ), ← zpow_neg,
    ← ten_pow_div (-e), neg_neg]

theorem magnitude_bounds {p q : Nat} (top : 0 < p) (bottom : 0 < q) :
    (10 : ℚ) ^ (magnitude p q - 1) ≤ p / q ∧ (p : ℚ) / q < 10 ^ magnitude p q := by
  have positive : (0 : ℚ) < q := by exact_mod_cast bottom
  have filled : 0 < (digitChars p).length := Nat.length_toDigits_pos
  have filled' : 0 < (digitChars q).length := Nat.length_toDigits_pos
  have size (n : Nat) (isSome : 0 < (digitChars n).length) (more : 0 < n) :
      (10 : ℚ) ^ (((digitChars n).length : Int) - 1) ≤ n ∧
        (n : ℚ) < 10 ^ ((digitChars n).length : Int) := by
    have least := le_digitChars_length more
    have less := digitChars_length_le n
    have cast : (((digitChars n).length - 1 : Nat) : Int) = ((digitChars n).length : Int) - 1 := by
      omega
    rw [← cast, ← cast_ten_pow, ← cast_ten_pow]
    exact ⟨by exact_mod_cast least, by exact_mod_cast less⟩
  obtain ⟨leastP, lessP⟩ := size p filled top
  obtain ⟨leastQ, lessQ⟩ := size q filled' bottom
  have lower : (10 : ℚ) ^ (((digitChars p).length : Int) - (digitChars q).length - 1) ≤ p / q := by
    rw [le_div_iff₀ positive]
    calc
      (10 : ℚ) ^ (((digitChars p).length : Int) - (digitChars q).length - 1) * q
          ≤ 10 ^ (((digitChars p).length : Int) - (digitChars q).length - 1) *
              10 ^ ((digitChars q).length : Int) := by gcongr
      _ = 10 ^ (((digitChars p).length : Int) - 1) := by
        rw [← zpow_add₀ (by norm_num)]
        congr 1
        ring
      _ ≤ p := leastP
  have upper : (p : ℚ) / q < 10 ^ (((digitChars p).length : Int) - (digitChars q).length + 1) := by
    rw [div_lt_iff₀ positive]
    calc
      (p : ℚ) < 10 ^ ((digitChars p).length : Int) := lessP
      _ = 10 ^ (((digitChars p).length : Int) - (digitChars q).length + 1) *
            10 ^ (((digitChars q).length : Int) - 1) := by
        rw [← zpow_add₀ (by norm_num)]
        congr 1
        ring
      _ ≤ 10 ^ (((digitChars p).length : Int) - (digitChars q).length + 1) * q := by gcongr
  unfold magnitude
  simp only
  generalize ((digitChars p).length : Int) - (digitChars q).length = k at *
  have compared : q * 10 ^ k.toNat ≤ p * 10 ^ (-k).toNat ↔ (10 : ℚ) ^ k ≤ p / q := by
    have down : (0 : ℚ) < ((10 ^ (-k).toNat : Nat) : ℚ) := by exact_mod_cast ten_pow_pos _
    rw [le_div_iff₀ positive, ← ten_pow_div, div_mul_eq_mul_div, div_le_iff₀ down, mul_comm]
    norm_cast
  split
  · next large =>
    rw [add_sub_cancel_right]
    exact ⟨compared.mp large, upper⟩
  · next small => exact ⟨lower, not_le.mp fun large => small (compared.mpr large)⟩

theorem near_floor (p : Nat) {q : Nat} (bottom : 0 < q) :
    |((p / q : Nat) : ℚ) - p / q| ≤ 1 / 2 ∨ |((p / q + 1 : Nat) : ℚ) - p / q| ≤ 1 / 2 := by
  have positive : (0 : ℚ) < q := by exact_mod_cast bottom
  have least : ((p / q : Nat) : ℚ) ≤ p / q := Nat.cast_div_le
  have less : (p : ℚ) / q < (p / q : Nat) + 1 := by
    rw [div_lt_iff₀ positive]
    exact_mod_cast Nat.lt_mul_of_div_lt (Nat.lt_succ_self _) bottom
  by_cases low : (p : ℚ) / q - (p / q : Nat) ≤ 1 / 2
  · left
    rw [abs_le]
    constructor <;> linarith
  · right
    push_cast
    rw [abs_le]
    constructor <;> linarith

theorem Scaled.code_of_value {s : Scaled} {p q : Nat} (bottom : 0 < q)
    (same : s.value = (p : ℚ) / q) : s.code = double.code p q := by
  apply double.code_congr (by decide) (ten_pow_pos _) bottom
  rw [scaled_div]
  exact same

/-- A decimal has the code of a double if it is within a twentieth of a millionth of a billionth. -/
theorem Scaled.code_near {s : Scaled} {m : Nat} {e : Int} (value : double.Represents m e)
    (near : |s.value - m * 2 ^ e| * (2 * 10 ^ 16) ≤ m * 2 ^ e) :
    s.code = min double.infinity ((e - double.lowest).toNat * 2 ^ 52 + m) := by
  have positive : (0 : ℚ) < m * 2 ^ e := by
    have positive : (0 : ℚ) < m := by exact_mod_cast value.positive
    exact mul_pos positive (zpow_pos two_pos _)
  have closer : |s.value - m * 2 ^ e| * 2 ^ ((double.precision : Int) + 1) < m * 2 ^ e := by
    have scale : (2 : ℚ) ^ ((double.precision : Int) + 1) = 18014398509481984 := by
      change (2 : ℚ) ^ ((53 : Int) + 1) = _
      norm_num
    rw [scale]
    have distance := abs_nonneg (s.value - m * 2 ^ e)
    norm_num at near
    linarith
  have positive : 0 < s.coefficient := by
    apply Nat.pos_of_ne_zero
    intro zero
    have zero : s.value = 0 := by
      rw [Scaled.value, zero, Nat.cast_zero, zero_mul]
    rw [zero, zero_sub, abs_neg, abs_of_pos positive] at near
    norm_num at near
    linarith
  apply double.code_near (by decide) (Nat.mul_pos positive (ten_pow_pos _)) (ten_pow_pos _) value
  rw [scaled_div]
  exact closer

/-- Of the two neighbours of a double with seventeen digits one has its code. -/
theorem neighbour_reads {p q m : Nat} {e : Int} (bottom : 0 < q)
    (value : double.Represents m e) (isValue : (p : ℚ) / q = m * 2 ^ e) :
    (neighbour? (min double.infinity ((e - double.lowest).toNat * 2 ^ 52 + m)) p q 17).isSome :=
    by
  have positive : (0 : ℚ) < m := by exact_mod_cast value.positive
  have positive : (0 : ℚ) < p / q := by
    rw [isValue]
    exact mul_pos positive (zpow_pos two_pos _)
  have top : 0 < p := by
    apply Nat.pos_of_ne_zero
    rintro rfl
    rw [Nat.cast_zero, zero_div] at positive
    exact lt_irrefl _ positive
  obtain ⟨least, _⟩ := magnitude_bounds top bottom
  unfold neighbour?
  simp only
  generalize isGrid : magnitude p q - ((17 : Nat) : Int) = grid
  have unit : (0 : ℚ) < 10 ^ grid := zpow_pos (by norm_num) _
  have size : (10 : ℚ) ^ grid * 10 ^ 16 ≤ p / q := by
    have sum : magnitude p q - 1 = grid + 16 := by omega
    rw [sum, zpow_add₀ (by norm_num)] at least
    exact_mod_cast least
  have scaled := scaleDown_div p q grid
  have bottom' : 0 < (scaleDown p q grid).2 := Nat.mul_pos bottom (ten_pow_pos _)
  have near := near_floor (scaleDown p q grid).1 bottom'
  rw [scaled] at near
  have reads (d : Nat) (isNear : |(d : ℚ) - p / q / 10 ^ grid| ≤ 1 / 2) :
      (Scaled.mk d grid).code = min double.infinity ((e - double.lowest).toNat * 2 ^ 52 + m) := by
    apply Scaled.code_near value
    have distance : |(Scaled.mk d grid).value - p / q| =
        |(d : ℚ) - p / q / 10 ^ grid| * 10 ^ grid := by
      rw [← abs_of_pos unit, ← abs_mul, abs_of_pos unit, sub_mul, div_mul_cancel₀ _ unit.ne']
      rfl
    rw [← isValue, distance]
    calc
      |(d : ℚ) - p / q / 10 ^ grid| * 10 ^ grid * (2 * 10 ^ 16)
          ≤ 1 / 2 * 10 ^ grid * (2 * 10 ^ 16) := by gcongr
      _ = 10 ^ grid * 10 ^ 16 := by ring
      _ ≤ p / q := size
  cases near with
  | inl below =>
      have isBelow := reads _ below
      rw [isBelow]
      simp only [beq_self_eq_true]
      split <;> first | rfl | (split <;> rfl) | contradiction
  | inr above =>
      have isAbove := reads _ above
      rw [isAbove]
      simp only [beq_self_eq_true]
      split <;> first | rfl | (split <;> rfl) | contradiction

theorem neighbour_code {code p q n : Nat} {s : Scaled} (found : neighbour? code p q n = some s) :
    s.code = code := by
  unfold neighbour? at found
  simp only at found
  split at found
  · next isBelow isAbove =>
    split at found
    · cases found
      exact beq_iff_eq.mp isBelow
    · cases found
      exact beq_iff_eq.mp isAbove
  · next isBelow _ =>
    cases found
    exact beq_iff_eq.mp isBelow
  · next _ isAbove =>
    cases found
    exact beq_iff_eq.mp isAbove
  · cases found

theorem dropZeros_value (fuel : Nat) (s : Scaled) : (dropZeros fuel s).value = s.value := by
  induction fuel generalizing s with
  | zero => rfl
  | succ fuel ih =>
      rw [dropZeros]
      split
      · next isTen =>
        rw [ih]
        have split : s.coefficient = s.coefficient / 10 * 10 := by omega
        have cast : (s.coefficient : ℚ) = (s.coefficient / 10 : Nat) * 10 := by
          exact_mod_cast split
        rw [Scaled.value, Scaled.value, cast, zpow_add_one₀ (by norm_num)]
        ring
      · rfl

theorem Scaled.code_congr {s s' : Scaled} (same : s.value = s'.value) : s.code = s'.code := by
  apply Scaled.code_of_value (ten_pow_pos _)
  rw [same, scaled_div]
  rfl

theorem shortestOf_code {p q m : Nat} {e : Int} (bottom : 0 < q) (value : double.Represents m e)
    (isValue : (p : ℚ) / q = m * 2 ^ e) :
    (shortestOf (min double.infinity ((e - double.lowest).toNat * 2 ^ 52 + m)) p q).code =
      min double.infinity ((e - double.lowest).toNat * 2 ^ 52 + m) := by
  have reads := neighbour_reads bottom value isValue
  unfold shortestOf
  simp only
  rw [Scaled.code_congr (dropZeros_value 20 _)]
  cases isFound : (List.range 17).findSome? fun n =>
      neighbour? (min double.infinity ((e - double.lowest).toNat * 2 ^ 52 + m)) p q (n + 1) with
  | none =>
      have last := List.findSome?_eq_none_iff.mp isFound 16 (by decide)
      rw [last] at reads
      cases reads
  | some s =>
      obtain ⟨n, _, found⟩ := List.exists_of_findSome?_eq_some isFound
      exact neighbour_code found

theorem quotient_div (m : Nat) (e : Int) :
    ((quotient m e).1 : ℚ) / (quotient m e).2 = m * 2 ^ e := by
  have split : (2 : ℚ) ^ e = 2 ^ (e.toNat : Int) / 2 ^ ((-e).toNat : Int) := by
    rw [← zpow_sub₀ two_ne_zero]
    congr 1
    omega
  unfold quotient
  simp only
  rw [cast_shiftUp, split, two_zpow_cast (-e).toNat, mul_div_assoc]

theorem shortest_code {x : Float} {negative : Bool} {m : Nat} {e : Int}
    (isParts : parts x = .finite negative m e) (other : m ≠ 0) :
    (shortest x).code = x.toBits.toNat % 2 ^ 63 := by
  have finite := isFinite_of_parts isParts
  have isCode : x.toBits.toNat % 2 ^ 63 =
      min double.infinity ((e - double.lowest).toNat * 2 ^ 52 + m) := by
    have less := finite.less
    rw [finite.code other] at less ⊢
    exact (Nat.min_eq_right less.le).symm
  unfold shortest
  rw [isParts]
  simp only
  rw [if_neg other, isCode]
  exact shortestOf_code (Nat.two_pow_pos _) (finite.represents other) (quotient_div m e)

end HatReel.Decimal
