import HatReel.Text.Parts
import HatReel.Text.Digit
import Mathlib.Data.List.TakeWhile

/-! Digits among blanks.

No digit of any script is a blank. So what is left of a text after its blanks at both ends are taken
off is told by the text alone: a text of digits, with blanks around it, gives the digits. -/

namespace HatReel.Text

theorem takeWhile_congr {p q : Char → Bool} {cs : List Char} (same : ∀ c ∈ cs, p c = q c) :
    cs.takeWhile p = cs.takeWhile q := by
  induction cs with
  | nil => rfl
  | cons c cs ih =>
      rw [List.takeWhile_cons, List.takeWhile_cons, same c List.mem_cons_self,
        ih fun d inside => same d (List.mem_cons_of_mem c inside)]

theorem dropWhile_congr {p q : Char → Bool} {cs : List Char} (same : ∀ c ∈ cs, p c = q c) :
    cs.dropWhile p = cs.dropWhile q := by
  induction cs with
  | nil => rfl
  | cons c cs ih =>
      rw [List.dropWhile_cons, List.dropWhile_cons, same c List.mem_cons_self,
        ih fun d inside => same d (List.mem_cons_of_mem c inside)]

/-- A decimal digit is one of ASCII, or one of the ten that begin with the zero of another
script. -/
theorem decimalValue?_cases {c : Char} {d : Nat} (isValue : decimalValue? c = some d) :
    d < 10 ∧ (c.toNat = 48 + d ∨ 128 ≤ c.toNat ∧ ∃ z ∈ decimalZeros, c.toNat = z + d) := by
  unfold decimalValue? at isValue
  simp only [Bool.and_eq_true, decide_eq_true_eq] at isValue
  split at isValue
  · cases isValue
    omega
  · split at isValue
    · cases isValue
    · obtain ⟨z, found, rfl⟩ := Option.map_eq_some_iff.mp isValue
      have near := List.find?_some found
      simp only [Bool.and_eq_true, decide_eq_true_eq] at near
      exact ⟨by omega, .inr ⟨by omega, z, List.mem_of_find?_eq_some found, by omega⟩⟩

theorem isBlank_decimalZeros :
    ∀ z ∈ decimalZeros, ∀ d < 10, isBlank (Char.ofNat (z + d)) = false := by
  decide +kernel

theorem isBlank_otherDigits :
    ∀ r ∈ otherDigits, 128 ≤ r.1 ∧ ∀ d < r.2 + 1 - r.1, isBlank (Char.ofNat (r.1 + d)) = false := by
  decide +kernel

theorem isBlank_decimal {c : Char} (decimal : isDecimal c = true) : isBlank c = false := by
  obtain ⟨d, isValue⟩ := Option.isSome_iff_exists.mp decimal
  obtain ⟨less, ascii | ⟨-, z, isZero, place⟩⟩ := decimalValue?_cases isValue
  · simp only [isBlank, isWhiteSpace, ascii, Bool.or_eq_false_iff, Bool.and_eq_false_iff,
      decide_eq_false_iff_not, beq_eq_false_iff_ne]
    omega
  · rw [← Char.ofNat_toNat c, place]
    exact isBlank_decimalZeros z isZero d less

theorem digit_cases {c : Char} (digit : isAnyDigit c = true) :
    isDecimal c = true ∨ 128 ≤ c.toNat ∧ isBlank c = false := by
  rcases Bool.or_eq_true_iff.mp digit with decimal | other
  · exact .inl decimal
  · obtain ⟨r, isRange, inside⟩ := List.any_eq_true.mp other
    simp only [Bool.and_eq_true, decide_eq_true_eq] at inside
    obtain ⟨beyond, noBlank⟩ := isBlank_otherDigits r isRange
    have noBlank := noBlank (c.toNat - r.1) (by omega)
    rw [Nat.add_sub_cancel' inside.1, Char.ofNat_toNat] at noBlank
    exact .inr ⟨by omega, noBlank⟩

theorem isBlank_digit {c : Char} (digit : isAnyDigit c = true) : isBlank c = false :=
  (digit_cases digit).elim isBlank_decimal And.right

theorem isWhiteSpace_digit {c : Char} (digit : isAnyDigit c = true) : isWhiteSpace c = false :=
  (Bool.or_eq_false_iff.mp (isBlank_digit digit)).1

section

variable {p : Char → Bool} {cs : List Char}

/-- What trimming takes off are characters of the kind that is trimmed. -/
theorem trimWith_split (p : Char → Bool) (cs : List Char) : ∃ lead trail,
    cs = lead ++ trimWith p cs ++ trail ∧ (∀ c ∈ lead, p c = true) ∧ ∀ c ∈ trail, p c = true := by
  refine ⟨cs.takeWhile p, ((cs.dropWhile p).reverse.takeWhile p).reverse, ?_,
    fun c => List.mem_takeWhile_imp, fun c inside => ?_⟩
  · rw [trimWith, List.append_assoc, ← List.reverse_append, List.takeWhile_append_dropWhile,
      List.reverse_reverse, List.takeWhile_append_dropWhile]
  · exact List.mem_takeWhile_imp (List.mem_reverse.mp inside)

theorem dropWhile_none (outside : ∀ c ∈ cs, p c = false) : cs.dropWhile p = cs := by
  cases cs with
  | nil => rfl
  | cons c cs => rw [List.dropWhile_cons, outside c List.mem_cons_self, if_neg Bool.false_ne_true]

theorem takeWhile_none (outside : ∀ c ∈ cs, p c = false) : cs.takeWhile p = [] := by
  cases cs with
  | nil => rfl
  | cons c cs => rw [List.takeWhile_cons, outside c List.mem_cons_self, if_neg Bool.false_ne_true]

/-- Characters of the kind that is trimmed go from around others. -/
theorem trimWith_around {lead trail : List Char} (before : ∀ c ∈ lead, p c = true)
    (outside : ∀ c ∈ cs, p c = false) (filled : cs ≠ []) (after : ∀ c ∈ trail, p c = true) :
    trimWith p (lead ++ cs ++ trail) = cs := by
  have first : (cs ++ trail).dropWhile p = cs ++ trail := by
    rw [List.dropWhile_append, dropWhile_none outside, List.isEmpty_eq_false_iff.mpr filled,
      if_neg Bool.false_ne_true]
  have last : (trail.reverse ++ cs.reverse).dropWhile p = cs.reverse := by
    rw [List.dropWhile_append_of_pos fun c inside => after c (List.mem_reverse.mp inside)]
    exact dropWhile_none fun c inside => outside c (List.mem_reverse.mp inside)
  rw [trimWith, List.append_assoc, List.dropWhile_append_of_pos before, first,
    List.reverse_append, last, List.reverse_reverse]

end

end HatReel.Text
