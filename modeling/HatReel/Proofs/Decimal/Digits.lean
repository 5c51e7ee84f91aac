import Mathlib
import HatReel.Decimal.Reader
import HatReel.Decimal.Shortest

/-! Digits of a number and the number of digits.

The digits that a number is written with give the number back, and their count is its size. -/

namespace HatReel.Decimal

open HatReel.Text

def value (cs : List Char) : Nat := ofDigits 10 (digitValues cs)

def IsDigits (cs : List Char) : Prop := ∀ c ∈ cs, isAsciiDigit c = true

theorem isAsciiDigit_iff (c : Char) : isAsciiDigit c = true ↔ 48 ≤ c.toNat ∧ c.toNat ≤ 57 := by
  simp [isAsciiDigit]

theorem digitIn_ten {c : Char} (digit : isAsciiDigit c = true) :
    digitIn? 10 c = some (c.toNat - 48) := by
  have bounds := (isAsciiDigit_iff c).mp digit
  have less : c.toNat - 48 < 10 := by omega
  simp [digitIn?, asciiDigitValue?, bounds, less]

theorem IsDigits.nil : IsDigits [] := by
  intro c inside
  cases inside

theorem IsDigits.append {cs ds : List Char} (one : IsDigits cs) (other : IsDigits ds) :
    IsDigits (cs ++ ds) := by
  intro c inside
  cases List.mem_append.mp inside with
  | inl left => exact one c left
  | inr right => exact other c right

theorem IsDigits.cons {c : Char} {cs : List Char} (digit : isAsciiDigit c = true)
    (rest : IsDigits cs) : IsDigits (c :: cs) := by
  intro d inside
  cases List.mem_cons.mp inside with
  | inl isFirst => exact isFirst ▸ digit
  | inr inRest => exact rest d inRest

theorem IsDigits.head {c : Char} {cs : List Char} (digits : IsDigits (c :: cs)) :
    isAsciiDigit c = true := digits c List.mem_cons_self

theorem IsDigits.tail {c : Char} {cs : List Char} (digits : IsDigits (c :: cs)) : IsDigits cs :=
  fun d inside => digits d (List.mem_cons_of_mem c inside)

theorem IsDigits.take {cs : List Char} (digits : IsDigits cs) (n : Nat) : IsDigits (cs.take n) :=
  fun c inside => digits c (List.mem_of_mem_take inside)

theorem IsDigits.drop {cs : List Char} (digits : IsDigits cs) (n : Nat) : IsDigits (cs.drop n) :=
  fun c inside => digits c (List.mem_of_mem_drop inside)

theorem isDigits_zeros (n : Nat) : IsDigits (List.replicate n '0') := by
  intro c inside
  rw [List.eq_of_mem_replicate inside]
  rfl

theorem isDigits_digitChars (n : Nat) : IsDigits (digitChars n) := by
  intro c inside
  have digit := Nat.isDigit_of_mem_toDigits (by decide) (by decide) inside
  rw [isAsciiDigit_iff]
  simp only [Char.isDigit, Bool.and_eq_true, decide_eq_true_eq] at digit
  exact digit

theorem digitChars_ne_nil (n : Nat) : digitChars n ≠ [] := Nat.toDigits_ne_nil

theorem digitValues_append (cs ds : List Char) :
    digitValues (cs ++ ds) = digitValues cs ++ digitValues ds := List.filterMap_append

theorem digitValues_cons {c : Char} (digit : isAsciiDigit c = true) (cs : List Char) :
    digitValues (c :: cs) = (c.toNat - 48) :: digitValues cs := by
  unfold digitValues
  rw [List.filterMap_cons, digitIn_ten digit]

theorem IsDigits.length_values {cs : List Char} (digits : IsDigits cs) :
    (digitValues cs).length = cs.length := by
  induction cs with
  | nil => rfl
  | cons c cs ih =>
      rw [digitValues_cons digits.head, List.length_cons, List.length_cons, ih digits.tail]

theorem digitValues_less {cs : List Char} (digits : IsDigits cs) :
    ∀ d ∈ digitValues cs, d < 10 := by
  intro d inside
  obtain ⟨c, member, isValue⟩ := List.mem_filterMap.mp inside
  have digit := digits c member
  have bounds := (isAsciiDigit_iff c).mp digit
  rw [digitIn_ten digit] at isValue
  cases isValue
  omega

theorem ofDigits_foldl (base : Nat) (ds : List Nat) (n : Nat) :
    ds.foldl (fun n d => n * base + d) n = n * base ^ ds.length + ofDigits base ds := by
  unfold ofDigits
  induction ds generalizing n with
  | nil => simp
  | cons d ds ih =>
      rw [List.foldl_cons, List.foldl_cons, ih, ih (0 * base + d), List.length_cons, pow_succ]
      ring

theorem ofDigits_append (base : Nat) (cs ds : List Nat) :
    ofDigits base (cs ++ ds) = ofDigits base cs * base ^ ds.length + ofDigits base ds := by
  rw [ofDigits, List.foldl_append, ofDigits_foldl base ds]
  rfl

theorem ofDigits_cons (base d : Nat) (ds : List Nat) :
    ofDigits base (d :: ds) = d * base ^ ds.length + ofDigits base ds := by
  rw [ofDigits, List.foldl_cons, ofDigits_foldl, Nat.zero_mul, Nat.zero_add]

theorem ofDigits_less {base : Nat} {ds : List Nat} (digits : ∀ d ∈ ds, d < base) :
    ofDigits base ds < base ^ ds.length := by
  induction ds with
  | nil => simp [ofDigits]
  | cons d ds ih =>
      have less := ih fun e inside => digits e (List.mem_cons_of_mem d inside)
      have first : d + 1 ≤ base := digits d List.mem_cons_self
      rw [ofDigits_cons, List.length_cons, pow_succ]
      have room := Nat.mul_le_mul_right (base ^ ds.length) first
      nlinarith

theorem ofDigits_dropZeros (base : Nat) (ds : List Nat) :
    ofDigits base (ds.dropWhile (· == 0)) = ofDigits base ds := by
  induction ds with
  | nil => rfl
  | cons d ds ih =>
      rw [List.dropWhile_cons]
      split
      · next isZero =>
        have zero : d = 0 := by simpa using isZero
        rw [ih, ofDigits_cons, zero, Nat.zero_mul, Nat.zero_add]
      · rfl

theorem le_ofDigits {ds : List Nat} (more : ds ≠ []) (noZero : ds.head? ≠ some 0) :
    10 ^ (ds.length - 1) ≤ ofDigits 10 ds := by
  cases ds with
  | nil => exact absurd rfl more
  | cons d ds =>
      have positive : 1 ≤ d := by
        apply Nat.pos_of_ne_zero
        rintro rfl
        exact noZero rfl
      rw [ofDigits_cons, List.length_cons, Nat.add_sub_cancel]
      nlinarith [Nat.mul_le_mul_right (10 ^ ds.length) positive]

theorem value_append {cs ds : List Char} (digits : IsDigits ds) :
    value (cs ++ ds) = value cs * 10 ^ ds.length + value ds := by
  rw [value, digitValues_append, ofDigits_append, digits.length_values]
  rfl

theorem value_zeros (n : Nat) : value (List.replicate n '0') = 0 := by
  induction n with
  | zero => rfl
  | succ n ih =>
      have one : value (List.replicate 1 '0') = 0 := rfl
      have digits := isDigits_zeros 1
      rw [List.replicate_add, value_append digits, ih, one, Nat.zero_mul]

theorem value_digitChar {d : Nat} (less : d < 10) : value [Nat.digitChar d] = d := by
  have size := Nat.toNat_digitChar_of_lt_ten less
  have digit : isAsciiDigit (Nat.digitChar d) = true := by
    rw [isAsciiDigit_iff]
    omega
  rw [value, digitValues_cons digit]
  simp [ofDigits, digitValues, size]

theorem value_digitChars (n : Nat) : value (digitChars n) = n := by
  induction n using Nat.strongRecOn with
  | ind n ih =>
      by_cases small : n < 10
      · rw [digitChars, Nat.toDigits_of_lt_base small, value_digitChar small]
      · have ofTen : 10 ≤ n := Nat.le_of_not_lt small
        have last : n % 10 < 10 := Nat.mod_lt n (by decide)
        have digit : IsDigits [Nat.digitChar (n % 10)] := by
          rw [← Nat.toDigits_of_lt_base last]
          exact isDigits_digitChars _
        rw [digitChars, Nat.toDigits_of_base_le (by decide) ofTen, value_append digit,
          value_digitChar last]
        change value (digitChars (n / 10)) * 10 ^ 1 + n % 10 = n
        rw [ih (n / 10) (by omega)]
        omega

theorem digitChars_length_le (n : Nat) : n < 10 ^ (digitChars n).length :=
  (Nat.length_toDigits_le_iff (by decide) Nat.length_toDigits_pos).mp (le_refl _)

theorem le_digitChars_length {n : Nat} (positive : 0 < n) :
    10 ^ ((digitChars n).length - 1) ≤ n := by
  by_cases one : (digitChars n).length = 1
  · rw [one]
    exact positive
  · have more : 0 < (digitChars n).length := Nat.length_toDigits_pos
    by_contra less
    have short := (Nat.length_toDigits_le_iff (b := 10) (by decide)
      (k := (digitChars n).length - 1) (by omega)).mpr (Nat.lt_of_not_le less)
    change (digitChars n).length ≤ (digitChars n).length - 1 at short
    omega

end HatReel.Decimal
