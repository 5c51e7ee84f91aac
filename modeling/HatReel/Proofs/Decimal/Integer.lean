import HatReel.Decimal.Integer
import HatReel.Proofs.Text.Blanks

/-! Whole numbers read from digits among blanks.

The reader turns each character into a plain one first. Digits of all scripts and white space keep
their meaning then; the separators, which are blanks too, and the digits that are not decimal mean
nothing to the reader. So it gets as far as the decimal digits go, and whether that is a number is
told by their count and by what follows them. -/

namespace HatReel.Decimal

open HatReel.Text

theorem dropBaseMark_ten (cs : List Char) : dropBaseMark 10 cs = cs := by
  unfold dropBaseMark
  split
  · simp
  · rfl

theorem separates_noBars (p : Char → Bool) (cs : List Char) (noBars : '_' ∉ cs) :
    separates p cs = true := by
  induction cs with
  | nil => rfl
  | cons c cs ih =>
      have rest := ih fun inside => noBars (List.mem_cons_of_mem c inside)
      have first : (c != '_') = true := by
        rw [bne_iff_ne]
        rintro rfl
        exact noBars List.mem_cons_self
      cases cs with
      | nil => exact first
      | cons d cs =>
          have second : (d != '_') = true := by
            rw [bne_iff_ne]
            rintro rfl
            exact noBars (List.mem_cons_of_mem c List.mem_cons_self)
          have notBar : (d == '_') = false := by simpa using second
          rw [separates, first, second, notBar, if_neg Bool.false_ne_true, rest]
          rfl

theorem splitSign_noSign {cs : List Char} (noMinus : cs.head? ≠ some '-')
    (noPlus : cs.head? ≠ some '+') :
    splitSign cs = (false, cs) := by
  unfold splitSign
  split
  · exact absurd rfl noMinus
  · exact absurd rfl noPlus
  · rfl

section

variable {c : Char} {d : Nat}

theorem plainChar_ascii (ascii : c.toNat < 128) : plainChar c = c := by rw [plainChar, if_pos ascii]

theorem plainChar_decimal (beyond : 128 ≤ c.toNat) (isValue : decimalValue? c = some d) :
    plainChar c = Char.ofNat (48 + d) := by
  have decimal : isDecimal c = true := Option.isSome_iff_exists.mpr ⟨d, isValue⟩
  rw [plainChar, if_neg (by omega), isWhiteSpace_digit (isAnyDigit_of_isDecimal decimal),
    if_neg Bool.false_ne_true, isValue]

theorem plainChar_other (beyond : 128 ≤ c.toNat) (other : decimalValue? c = none) :
    plainChar c = if isWhiteSpace c then ' ' else '?' := by
  rw [plainChar, if_neg (by omega), other]

theorem digitIn?_ofNat (less : d < 10) : digitIn? 10 (Char.ofNat (48 + d)) = some d := by
  have all : ∀ d < 10, digitIn? 10 (Char.ofNat (48 + d)) = some d := by decide
  exact all d less

theorem isWhiteSpace_ofNat (less : d < 10) : isWhiteSpace (Char.ofNat (48 + d)) = false := by
  have all : ∀ d < 10, isWhiteSpace (Char.ofNat (48 + d)) = false := by decide
  exact all d less

/-- The reader of numbers sees a digit where there is a decimal digit, and its value. -/
theorem digitIn?_plainChar (c : Char) : digitIn? 10 (plainChar c) = decimalValue? c := by
  by_cases ascii : c.toNat < 128
  · rw [plainChar_ascii ascii, digitIn?, asciiDigitValue?, decimalValue?]
    simp only [Bool.and_eq_true, decide_eq_true_eq, ascii, if_true]
    split
    · next digit =>
      rw [Option.filter_some, if_pos (by simp only [decide_eq_true_eq]; omega)]
    · split
      · next digit =>
        rw [Option.filter_some, if_neg (by simp only [decide_eq_true_eq]; omega)]
      · split
        · next digit =>
          rw [Option.filter_some, if_neg (by simp only [decide_eq_true_eq]; omega)]
        · rfl
  · have beyond : 128 ≤ c.toNat := by omega
    cases isValue : decimalValue? c with
    | some d =>
        rw [plainChar_decimal beyond isValue, digitIn?_ofNat (decimalValue?_cases isValue).1]
    | none =>
        rw [plainChar_other beyond isValue]
        split <;> rfl

theorem isWhiteSpace_plainChar (c : Char) : isWhiteSpace (plainChar c) = isWhiteSpace c := by
  by_cases ascii : c.toNat < 128
  · rw [plainChar_ascii ascii]
  · have beyond : 128 ≤ c.toNat := by omega
    cases isValue : decimalValue? c with
    | some d =>
        have decimal : isDecimal c = true := Option.isSome_iff_exists.mpr ⟨d, isValue⟩
        rw [plainChar_decimal beyond isValue, isWhiteSpace_ofNat (decimalValue?_cases isValue).1,
          isWhiteSpace_digit (isAnyDigit_of_isDecimal decimal)]
    | none =>
        rw [plainChar_other beyond isValue]
        cases isWhiteSpace c <;> rfl

def isPlain (c : Char) : Bool := isBlank c || isAnyDigit c

theorem isPlain_marks {m : Char} (isMark : m = '-' ∨ m = '+' ∨ m = '_') : isPlain m = false := by
  rcases isMark with rfl | rfl | rfl <;> decide

theorem plainChar_ne {m : Char} (isMark : m = '-' ∨ m = '+' ∨ m = '_') (plain : isPlain c = true) :
    plainChar c ≠ m := by
  rintro rfl
  by_cases ascii : c.toNat < 128
  · rw [plainChar_ascii ascii] at isMark
    rw [isPlain_marks isMark] at plain
    cases plain
  · have beyond : 128 ≤ c.toNat := by omega
    cases isValue : decimalValue? c with
    | some d =>
        have all : ∀ d < 10, Char.ofNat (48 + d) ≠ '-' ∧ Char.ofNat (48 + d) ≠ '+' ∧
            Char.ofNat (48 + d) ≠ '_' := by decide
        obtain ⟨noMinus, noPlus, noBar⟩ := all d (decimalValue?_cases isValue).1
        rw [plainChar_decimal beyond isValue] at isMark
        rcases isMark with same | same | same
        · exact noMinus same
        · exact noPlus same
        · exact noBar same
    | none =>
        rw [plainChar_other beyond isValue] at isMark
        split at isMark <;> revert isMark <;> decide

end

def leadingDigits (text : List Char) : List Char :=
  (text.dropWhile isWhiteSpace).takeWhile isDecimal

theorem length_decimalValues {cs : List Char} (decimal : ∀ c ∈ cs, isDecimal c = true) :
    (cs.filterMap decimalValue?).length = cs.length := by
  induction cs with
  | nil => rfl
  | cons c cs ih =>
      obtain ⟨d, isValue⟩ := Option.isSome_iff_exists.mp (decimal c List.mem_cons_self)
      rw [List.filterMap_cons_some isValue, List.length_cons, List.length_cons,
        ih fun e inside => decimal e (List.mem_cons_of_mem c inside)]

theorem readInteger_plain {text : List Char} (plain : ∀ c ∈ text, isPlain c = true) :
    readInteger 10 text =
      if leadingDigits text = [] then .error (.malformed 10 text)
      else if digitLimit < (leadingDigits text).length then
        .error (.tooLong (leadingDigits text).length)
      else if ((text.dropWhile isWhiteSpace).dropWhile isDecimal).all isWhiteSpace then
        .ok (ofDigits 10 ((leadingDigits text).filterMap decimalValue?) : Nat)
      else .error (.malformed 10 text) := by
  have begun : (text.map plainChar).dropWhile isWhiteSpace =
      (text.dropWhile isWhiteSpace).map plainChar := by
    rw [List.dropWhile_map]
    exact congrArg _ (dropWhile_congr fun c _ => isWhiteSpace_plainChar c)
  have bodyPlain : ∀ c ∈ text.dropWhile isWhiteSpace, isPlain c = true :=
    fun c inside => plain c ((List.dropWhile_sublist _).subset inside)
  have noMark {m : Char} (isMark : m = '-' ∨ m = '+' ∨ m = '_') :
      m ∉ (text.dropWhile isWhiteSpace).map plainChar := by
    intro inside
    obtain ⟨c, member, same⟩ := List.mem_map.mp inside
    exact plainChar_ne isMark (bodyPlain c member) same
  have unsigned : splitSign ((text.dropWhile isWhiteSpace).map plainChar) =
      (false, (text.dropWhile isWhiteSpace).map plainChar) :=
    splitSign_noSign (fun first => noMark (.inl rfl) (List.mem_of_mem_head? first))
      (fun first => noMark (.inr (.inl rfl)) (List.mem_of_mem_head? first))
  have member : ∀ c ∈ text.dropWhile isWhiteSpace,
      ((fun c => c == '_' || (digitIn? 10 c).isSome) ∘ plainChar) c = isDecimal c := by
    intro c inside
    have noBar := plainChar_ne (.inr (.inr rfl)) (bodyPlain c inside)
    simp only [Function.comp, digitIn?_plainChar, beq_eq_false_iff_ne.mpr noBar, Bool.false_or]
    rfl
  have run : ((text.dropWhile isWhiteSpace).map plainChar).takeWhile
      (fun c => c == '_' || (digitIn? 10 c).isSome) = (leadingDigits text).map plainChar := by
    rw [List.takeWhile_map, takeWhile_congr member]
    rfl
  have rest : ((text.dropWhile isWhiteSpace).map plainChar).dropWhile
      (fun c => c == '_' || (digitIn? 10 c).isSome) =
        ((text.dropWhile isWhiteSpace).dropWhile isDecimal).map plainChar := by
    rw [List.dropWhile_map, dropWhile_congr member]
  have separated :
      separates (fun c => (digitIn? 10 c).isSome) ((leadingDigits text).map plainChar) = true := by
    refine separates_noBars _ _ fun inside => noMark (.inr (.inr rfl)) ?_
    exact List.map_subset _ (List.takeWhile_prefix _).subset inside
  have values : ((leadingDigits text).map plainChar).filterMap (digitIn? 10) =
      (leadingDigits text).filterMap decimalValue? := by
    rw [List.filterMap_map]
    exact congrArg (fun f => (leadingDigits text).filterMap f) (funext digitIn?_plainChar)
  have length : ((leadingDigits text).filterMap decimalValue?).length =
      (leadingDigits text).length :=
    length_decimalValues fun c => List.mem_takeWhile_imp
  have empty : ((leadingDigits text).filterMap decimalValue?).isEmpty =
      decide (leadingDigits text = []) := by
    rw [Bool.eq_iff_iff, List.isEmpty_iff, decide_eq_true_eq, ← List.length_eq_zero_iff, length,
      List.length_eq_zero_iff]
  have ends : (((text.dropWhile isWhiteSpace).dropWhile isDecimal).map plainChar).all isWhiteSpace =
      ((text.dropWhile isWhiteSpace).dropWhile isDecimal).all isWhiteSpace := by
    rw [List.all_map]
    exact congrArg _ (funext isWhiteSpace_plainChar)
  unfold readInteger
  simp only [begun, unsigned, dropBaseMark_ten, run, rest, separated, values, empty, length, ends,
    Bool.not_true, Bool.or_false, decide_eq_true_eq, beq_self_eq_true, Bool.true_and,
    Bool.false_eq_true, if_false]

end HatReel.Decimal
