import Mathlib
import HatReel.Decimal.Printer
import HatReel.Proofs.Decimal.Shortest

/-! Decimals spelled with a point, and what reading them gives.

A decimal is spelled with digits on both sides of its point, and perhaps with an exponent. The
reader rounds the number that the spelling stands for, and the bounds beyond which it does not raise
a power change nothing. -/

namespace HatReel.Decimal

open HatReel.Binary HatReel.Text

structure Spelled where
  whole : List Char
  fraction : List Char
  exponent : Option Int
  wholeDigits : IsDigits whole
  wholeSome : whole ≠ []
  fractionDigits : IsDigits fraction
  fractionSome : fraction ≠ []

namespace Spelled

def ending (d : Spelled) : List Char :=
  match d.exponent with
  | none => []
  | some e => 'e' :: exponentText e

def text (d : Spelled) : List Char := d.whole ++ '.' :: (d.fraction ++ d.ending)

def power (d : Spelled) : Int := d.exponent.getD 0 - d.fraction.length

def value (d : Spelled) : ℚ := Decimal.value (d.whole ++ d.fraction) * 10 ^ d.power

end Spelled

theorem IsDigits.takeWhile {cs ds : List Char} (digits : IsDigits cs)
    (ends : ds.head?.any isAsciiDigit = false) : (cs ++ ds).takeWhile isAsciiDigit = cs := by
  rw [List.takeWhile_append_of_pos digits]
  cases ds with
  | nil => simp
  | cons d ds =>
      have noDigit : isAsciiDigit d = false := ends
      rw [List.takeWhile_cons, noDigit]
      simp

theorem IsDigits.dropWhile {cs ds : List Char} (digits : IsDigits cs)
    (ends : ds.head?.any isAsciiDigit = false) : (cs ++ ds).dropWhile isAsciiDigit = ds := by
  rw [List.dropWhile_append_of_pos digits]
  cases ds with
  | nil => rfl
  | cons d ds =>
      have noDigit : isAsciiDigit d = false := ends
      rw [List.dropWhile_cons, noDigit]
      simp

theorem IsDigits.all {cs : List Char} (digits : IsDigits cs) : cs.all isAsciiDigit = true :=
  List.all_eq_true.mpr digits

theorem readExponent_text (e : Int) : readExponent ('e' :: exponentText e) = some e := by
  have digits : IsDigits (zeros (2 - (digitChars e.natAbs).length) ++ digitChars e.natAbs) :=
    (isDigits_zeros _).append (isDigits_digitChars _)
  have filled : (zeros (2 - (digitChars e.natAbs).length) ++ digitChars e.natAbs).isEmpty =
      false := by
    simp [digitChars_ne_nil]
  have isValue : ofDigits 10 (digitValues (zeros (2 - (digitChars e.natAbs).length) ++
      digitChars e.natAbs)) = e.natAbs := by
    change value _ = _
    rw [value_append (isDigits_digitChars _), zeros, value_zeros, value_digitChars, Nat.zero_mul,
      Nat.zero_add]
  unfold exponentText
  simp only
  generalize zeros (2 - (digitChars e.natAbs).length) ++ digitChars e.natAbs = cs at *
  by_cases below : e < 0
  · rw [if_pos below]
    simp only [readExponent, splitSign, filled, digits.all, isValue]
    simp [-Nat.cast_natAbs]
    omega
  · rw [if_neg below]
    simp only [readExponent, splitSign, filled, digits.all, isValue]
    simp [-Nat.cast_natAbs]
    omega

namespace Spelled

theorem readExponent_ending (d : Spelled) : readExponent d.ending = some (d.exponent.getD 0) := by
  unfold ending
  cases d.exponent with
  | none => rfl
  | some e => exact readExponent_text e

theorem ending_head (d : Spelled) : d.ending.head?.any isAsciiDigit = false := by
  unfold ending
  cases d.exponent <;> rfl

theorem readFraction_text (d : Spelled) (negative : Bool) :
    readFraction negative d.text =
      some (ofScaled negative (Decimal.value (d.whole ++ d.fraction))
        ((digitValues (d.whole ++ d.fraction)).dropWhile (· == 0)).length d.power) := by
  have point : ('.' :: (d.fraction ++ d.ending)).head?.any isAsciiDigit = false := rfl
  have isWhole := d.wholeDigits.takeWhile point
  have isRest := d.wholeDigits.dropWhile point
  have isFraction := d.fractionDigits.takeWhile d.ending_head
  have isEnding := d.fractionDigits.dropWhile d.ending_head
  have notEmpty : d.whole.isEmpty = false := by simp [d.wholeSome]
  unfold readFraction text
  simp only [isWhole, isRest, isFraction, isEnding, notEmpty, d.readExponent_ending,
    ← digitValues_append, ofDigits_dropZeros]
  rfl

end Spelled

theorem head_dropZeros (ds : List Nat) : (ds.dropWhile (· == 0)).head? ≠ some 0 := by
  intro isZero
  have refused := List.head?_dropWhile_not (· == 0) ds
  rw [isZero] at refused
  simp at refused

theorem two_zpow_le {e : Int} (bound : e ≤ 1200) : (2 : ℚ) ^ e ≤ 10 ^ (400 : Int) := by
  calc
    (2 : ℚ) ^ e ≤ 2 ^ ((3 : Int) * 400) := zpow_le_zpow_right₀ one_le_two bound
    _ = (2 ^ (3 : Int)) ^ (400 : Int) := zpow_mul _ _ _
    _ ≤ 10 ^ (400 : Int) := zpow_le_zpow_left₀ (by decide) (by norm_num) (by norm_num)

theorem ten_zpow_pos (e : Int) : (0 : ℚ) < 10 ^ e := zpow_pos (by norm_num) _

/-- Reading rounds the number that digits and exponent stand for; the numbers that are not computed
are too large or too small for any double but infinity and zero. -/
theorem ofScaled_code {negative : Bool} {ds : List Nat} {e : Int} {s : Scaled}
    (digits : ∀ d ∈ ds, d < 10) (same : (ofDigits 10 ds : ℚ) * 10 ^ e = s.value)
    (positive : 0 < s.code) (finite : s.code < double.infinity) :
    ofScaled negative (ofDigits 10 ds) (ds.dropWhile (· == 0)).length e =
      ofCode negative s.code := by
  have isCode : s.code = double.code (ofDigits 10 ds * 10 ^ e.toNat) (10 ^ (-e).toNat) := by
    apply Scaled.code_of_value (ten_pow_pos _)
    rw [scaled_div, same]
  have other : ofDigits 10 ds ≠ 0 := by
    intro zero
    rw [zero, Nat.zero_mul] at isCode
    exact absurd isCode positive.ne'
  have isDropped := ofDigits_dropZeros 10 ds
  have digits' : ∀ d ∈ ds.dropWhile (· == 0), d < 10 :=
    fun d inside => digits d ((List.dropWhile_sublist _).subset inside)
  have notEmpty : ds.dropWhile (· == 0) ≠ [] := by
    intro empty
    rw [empty] at isDropped
    exact other isDropped.symm
  have least := le_ofDigits notEmpty (head_dropZeros ds)
  have less := ofDigits_less digits'
  have length : 0 < (ds.dropWhile (· == 0)).length := List.length_pos_iff.mpr notEmpty
  rw [isDropped] at least less
  generalize (ds.dropWhile (· == 0)).length = n at *
  have isValue := scaled_div (ofDigits 10 ds) e
  unfold ofScaled
  rw [if_neg other]
  split
  · next large =>
    have tooLarge : (2 : ℚ) ^ (1024 : Int) ≤ ofDigits 10 ds * 10 ^ e := by
      calc
        (2 : ℚ) ^ (1024 : Int) ≤ 10 ^ (400 : Int) := two_zpow_le (by decide)
        _ ≤ 10 ^ (((n - 1 : Nat) : Int) + e) := by
          apply zpow_le_zpow_right₀ (by norm_num)
          omega
        _ = ((10 ^ (n - 1) : Nat) : ℚ) * 10 ^ e := by
          rw [cast_ten_pow, zpow_add₀ (by norm_num)]
        _ ≤ ofDigits 10 ds * 10 ^ e := by
          apply mul_le_mul_of_nonneg_right _ (ten_zpow_pos e).le
          exact_mod_cast least
    rw [← isValue] at tooLarge
    rw [isCode, double_code_large (ten_pow_pos _) tooLarge] at finite
    exact absurd finite (lt_irrefl _)
  · split
    · next small =>
      have tooSmall : (ofDigits 10 ds : ℚ) * 10 ^ e < 2 ^ (-1075 : Int) := by
        calc
          (ofDigits 10 ds : ℚ) * 10 ^ e < ((10 ^ n : Nat) : ℚ) * 10 ^ e := by
            apply mul_lt_mul_of_pos_right _ (ten_zpow_pos e)
            exact_mod_cast less
          _ = 10 ^ ((n : Int) + e) := by
            rw [cast_ten_pow, zpow_add₀ (by norm_num)]
          _ ≤ 10 ^ (-400 : Int) := by
            apply zpow_le_zpow_right₀ (by norm_num)
            omega
          _ ≤ 2 ^ (-1075 : Int) := by
            rw [zpow_neg, zpow_neg]
            exact inv_anti₀ (zpow_pos two_pos _) (two_zpow_le (by decide))
      rw [← isValue] at tooSmall
      rw [isCode, double_code_small (ten_pow_pos _) tooSmall] at positive
      exact absurd positive (lt_irrefl _)
    · rw [isCode]
      rfl

theorem Spelled.readFraction_code {d : Spelled} {s : Scaled} (negative : Bool)
    (same : d.value = s.value) (positive : 0 < s.code) (finite : s.code < double.infinity) :
    readFraction negative d.text = some (ofCode negative s.code) := by
  rw [d.readFraction_text]
  congr 1
  apply ofScaled_code _ same positive finite
  exact digitValues_less (d.wholeDigits.append d.fractionDigits)

/-- The parts around the point, with the weight that the part behind it gives them, are the digits
with their weight. -/
theorem pointed_value {cs : List Char} (digits : IsDigits cs) (notEmpty : cs ≠ []) (point : Int) :
    IsDigits (pointed cs point).1 ∧ IsDigits (pointed cs point).2 ∧ (pointed cs point).1 ≠ [] ∧
      (value ((pointed cs point).1 ++ (pointed cs point).2) : ℚ) *
          10 ^ (-((pointed cs point).2.length : Int)) = value cs * 10 ^ (point - cs.length) := by
  unfold pointed
  split
  · next low =>
    have zero : IsDigits ['0'] := isDigits_zeros 1
    have filled : IsDigits (zeros (-point).toNat ++ cs) := (isDigits_zeros _).append digits
    refine ⟨zero, filled, List.cons_ne_nil _ _, ?_⟩
    have isValue : value (['0'] ++ (zeros (-point).toNat ++ cs)) = value cs := by
      have first : value ['0'] = 0 := rfl
      rw [value_append filled, value_append digits, zeros, value_zeros, first, Nat.zero_mul,
        Nat.zero_mul, Nat.zero_add, Nat.zero_add]
    rw [isValue, zeros, List.length_append, List.length_replicate]
    congr 2
    omega
  · next high =>
    simp only
    split
    · next long =>
      have filled := isDigits_zeros (point.toNat - cs.length)
      refine ⟨digits.append filled, IsDigits.nil, List.append_ne_nil_of_left_ne_nil notEmpty _, ?_⟩
      have sum : point - cs.length = ((point.toNat - cs.length : Nat) : Int) := by omega
      rw [List.append_nil, zeros, value_append filled, value_zeros, List.length_replicate, sum,
        List.length_nil, Nat.cast_add, Nat.cast_mul, cast_ten_pow]
      simp
    · next short =>
      refine ⟨digits.take _, digits.drop _, ?_, ?_⟩
      · intro empty
        rw [List.take_eq_nil_iff] at empty
        cases empty with
        | inl zero => omega
        | inr empty => exact notEmpty empty
      · rw [List.take_append_drop, List.length_drop]
        congr 2
        omega

theorem value_shift (cs : List Char) (e : Int) :
    (value (cs ++ ['0']) : ℚ) * 10 ^ (e - 1) = value cs * 10 ^ e := by
  have zero : IsDigits ['0'] := isDigits_zeros 1
  have last : value ['0'] = 0 := rfl
  rw [value_append zero, last, List.length_singleton, pow_one, Nat.add_zero, Nat.cast_mul,
    mul_assoc]
  congr 1
  rw [zpow_sub_one₀ (by norm_num)]
  push_cast
  ring

theorem Scaled.text_spelled (s : Scaled) :
    (∃ d : Spelled, s.text = d.text ∧ d.value = s.value) ∨
      ∃ c e, isAsciiDigit c = true ∧ s.text = c :: 'e' :: exponentText e ∧
        (Decimal.value [c] : ℚ) * 10 ^ e = s.value := by
  have digits := isDigits_digitChars s.coefficient
  have isValue := value_digitChars s.coefficient
  have notEmpty := digitChars_ne_nil s.coefficient
  unfold Scaled.text Scaled.value
  simp only
  generalize digitChars s.coefficient = cs at *
  rw [← isValue]
  split
  · left
    obtain ⟨whole, fraction, wholeSome, same⟩ :=
      pointed_value digits notEmpty ((cs.length : Int) + s.exponent)
    rw [add_sub_cancel_left] at same
    generalize pointed cs ((cs.length : Int) + s.exponent) = parts at *
    by_cases bare : parts.2 = []
    · refine ⟨⟨parts.1, ['0'], .none, whole, wholeSome, isDigits_zeros 1, List.cons_ne_nil _ _⟩, ?_,
        ?_⟩
      · rw [bare]
        rfl
      · rw [← same, bare, List.append_nil]
        exact value_shift parts.1 0
    · refine ⟨⟨parts.1, parts.2, .none, whole, wholeSome, fraction, bare⟩, ?_, ?_⟩
      · simp [Spelled.text, Spelled.ending, bare]
      · rw [← same]
        simp [Spelled.value, Spelled.power]
  · cases cs with
    | nil => exact absurd rfl notEmpty
    | cons c cs =>
        cases cs with
        | nil =>
            right
            refine ⟨c, _, digits.head, rfl, ?_⟩
            congr 2
            simp
        | cons c' cs =>
            left
            refine ⟨⟨[c], c' :: cs, .some _, IsDigits.nil.cons digits.head, List.cons_ne_nil _ _,
              digits.tail, List.cons_ne_nil _ _⟩, rfl, ?_⟩
            change (Decimal.value ([c] ++ (c' :: cs)) : ℚ) *
              10 ^ (_ - ((cs.length + 1 : Nat) : Int)) = _
            congr 2
            simp
            omega

/-- One digit with an exponent reads the same with a zero behind a point. -/
theorem spelled_of_digit {c : Char} (digit : isAsciiDigit c = true) (e : Int) :
    ∃ d : Spelled, d.text = c :: '.' :: '0' :: 'e' :: exponentText e ∧
      d.value = Decimal.value [c] * 10 ^ e := by
  have digits : IsDigits [c] := IsDigits.nil.cons digit
  exact ⟨⟨[c], ['0'], e, digits, List.cons_ne_nil _ _, isDigits_zeros 1, List.cons_ne_nil _ _⟩, rfl,
    value_shift [c] e⟩

end HatReel.Decimal
