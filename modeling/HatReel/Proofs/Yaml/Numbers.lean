import Mathlib
import HatReel.Proofs.Decimal.Integer
import HatReel.Proofs.Decimal.Spelling
import HatReel.Proofs.Yaml.Words
import HatReel.Yaml.Printer

/-! Null, switches and numbers as words.

Each is written as a word that implies the tag of its kind and has the same value when it is
read. -/

namespace HatReel.Yaml

open HatReel.Binary HatReel.Decimal HatReel.Document HatReel.Text

def Tag.isCommon : Tag → Bool
  | .null | .bool | .int | .float | .str => true
  | _ => false

structure Says (cs : List Char) (v : Value) : Prop where
  filled : cs ≠ []
  word : IsWord cs
  plain : allowsPlain cs = true
  common : (Tag.implied cs).isCommon = true
  value : ∀ place, scalarValue (Tag.implied cs) ⟨cs, true, false⟩ place = .ok v

theorem says_null : Says "null".toList .null where
  filled := by decide +kernel
  word := by decide +kernel
  plain := by decide +kernel
  common := by decide +kernel
  value := by
    intro place
    have isNull : Tag.implied "null".toList = .null := by decide +kernel
    rw [isNull]
    rfl

theorem says_bool (b : Bool) : Says (if b then "true" else "false").toList (.bool b) := by
  cases b with
  | false =>
      refine ⟨by decide +kernel, by decide +kernel, by decide +kernel, by decide +kernel, ?_⟩
      intro place
      have isBool : Tag.implied "false".toList = .bool := by decide +kernel
      simp only [Bool.false_eq_true, if_false, isBool]
      cbv
  | true =>
      refine ⟨by decide +kernel, by decide +kernel, by decide +kernel, by decide +kernel, ?_⟩
      intro place
      have isBool : Tag.implied "true".toList = .bool := by decide +kernel
      simp only [if_true, isBool]
      cbv

theorem isWord_digits {cs : List Char} (digits : IsDigits cs) : IsWord cs :=
  fun c inside => isWordChar_digit (digits c inside)

theorem isWord_sign (negative : Bool) : IsWord (signText negative) := by
  cases negative <;> decide

theorem isWord_false {words : List String} {cs : List Char}
    (other : ∀ w ∈ words.flatMap letterCases, w.toList.head? ≠ cs.head?) :
    isWord words cs = false := by
  unfold isWord
  rw [List.contains_eq_any_beq, List.any_eq_false]
  intro w inside same
  apply other w inside
  rw [← beq_iff_eq.mp same, String.toList_ofList]

def isNumberHead (c : Char) : Bool := isAsciiDigit c || c == '-'

theorem ne_numberHead {c d : Char} (head : isNumberHead c = true) (other : isNumberHead d = false) :
    c ≠ d := by
  rintro rfl
  rw [head] at other
  cases other

theorem head_letterCases {word w : String} (isCase : w ∈ letterCases word) {d : Char}
    (first : d ∈ w.toList.head?) : ∃ e ∈ word.toList.head?, d = e ∨ d = e.toUpper := by
  unfold letterCases at isCase
  cases letters : word.toList with
  | nil =>
      simp only [letters, List.map_nil, List.mem_cons, List.not_mem_nil, or_false] at isCase
      rcases isCase with rfl | rfl | rfl
      · rw [letters] at first
        cases first
      · rw [String.toList_ofList] at first
        cases first
      · cases first
  | cons e rest =>
      refine ⟨e, rfl, ?_⟩
      simp only [letters, List.mem_cons, List.not_mem_nil, or_false] at isCase
      rcases isCase with rfl | rfl | rfl
      · rw [letters] at first
        cases first
        exact Or.inl rfl
      · rw [String.toList_ofList] at first
        cases first
        exact Or.inr rfl
      · rw [String.toList_ofList] at first
        cases first
        exact Or.inr rfl

theorem noWord_number {c : Char} {cs : List Char} (head : isNumberHead c = true)
    {words : List String}
    (letters : ∀ word ∈ words, ∀ e ∈ word.toList.head?,
      isNumberHead e = false ∧ isNumberHead e.toUpper = false) :
    isWord words (c :: cs) = false := by
  apply isWord_false
  intro w inside same
  obtain ⟨word, isAmong, isCase⟩ := List.mem_flatMap.mp inside
  obtain ⟨e, first, isHead⟩ := head_letterCases isCase same
  obtain ⟨lower, upper⟩ := letters word isAmong e first
  cases isHead with
  | inl same => exact ne_numberHead head lower same
  | inr same => exact ne_numberHead head upper same

/-- The tag of a number is decided by its form alone. -/
theorem implied_number {cs : List Char} (head : cs.head?.any isNumberHead = true)
    (word : IsWord cs) :
    Tag.implied cs = if isIntegerText cs then .int else if isFloatText cs then .float
      else Tag.implied cs := by
  cases cs with
  | nil => cases head
  | cons c cs =>
      have first : isNumberHead c = true := head
      have noNull : isWord ["null"] (c :: cs) = false := by
        apply noWord_number first
        simp
        decide
      have noSwitch : isWord (switchWords.map (·.1)) (c :: cs) = false := by
        apply noWord_number first
        simp [switchWords]
        decide
      have noMark : (c :: cs == ['~']) = false := by
        rw [beq_eq_false_iff_ne]
        intro same
        exact ne_numberHead first (d := '~') rfl (List.cons.inj same).1
      have isWordTag : Tag.implied (c :: cs) = Tag.ofWord (c :: cs) := by
        unfold Tag.implied
        rw [word.getLast?_ne rfl, if_neg Bool.false_ne_true]
      split
      · next isInteger =>
        rw [isWordTag]
        simp [Tag.ofWord, noMark, noNull, noSwitch, isInteger]
      · next notInteger =>
        split
        · next isFloat =>
          rw [isWordTag]
          simp [Tag.ofWord, noMark, noNull, noSwitch, notInteger, isFloat]
        · rfl

/-! Whole numbers. -/

theorem toString_int (n : Int) :
    (toString n).toList = signText (n < 0) ++ digitChars n.natAbs := by
  cases n with
  | ofNat n =>
      have isText : toString (Int.ofNat n) = n.repr := rfl
      have notBelow : ¬ Int.ofNat n < 0 := by
        rw [not_lt]
        exact Int.natCast_nonneg n
      rw [isText, Nat.toList_repr, decide_eq_false notBelow]
      rfl
  | negSucc n =>
      have isText : toString (Int.negSucc n) = "-" ++ (n + 1).repr := rfl
      rw [isText, String.toList_append, Nat.toList_repr, decide_eq_true (Int.negSucc_lt_zero n)]
      rfl

theorem splitSign_signed (negative : Bool) {cs : List Char}
    (noSign : cs.head?.all fun c => c != '-' && c != '+') :
    splitSign (signText negative ++ cs) = (negative, cs) := by
  cases negative with
  | true => rfl
  | false =>
      cases cs with
      | nil => rfl
      | cons c cs =>
          simp only [List.head?_cons, Option.all_some, Bool.and_eq_true, bne_iff_ne] at noSign
          unfold splitSign signText
          simp only [Bool.false_eq_true, if_false, List.nil_append]
          split
          · next same => exact absurd (List.cons.inj same).1 noSign.1
          · next same => exact absurd (List.cons.inj same).1 noSign.2
          · rfl

theorem noSign_digits {cs ds : List Char} (digits : IsDigits cs) (more : cs ≠ []) :
    (cs ++ ds).head?.all (fun c => c != '-' && c != '+') = true := by
  cases cs with
  | nil => exact absurd rfl more
  | cons c cs =>
      have bounds := (isAsciiDigit_iff c).mp digits.head
      simp only [List.cons_append, List.head?_cons, Option.all_some, Bool.and_eq_true,
        bne_iff_ne, Ne, char_eq_iff]
      have minus : '-'.toNat = 45 := rfl
      have plus : '+'.toNat = 43 := rfl
      omega

theorem digitBar_digits {cs : List Char} (digits : IsDigits cs) :
    ∀ c ∈ cs, isDigitOrBar c = true := by
  intro c inside
  simp [isDigitOrBar, digits c inside]

theorem digitChars_cons {n : Nat} (positive : 0 < n) :
    ∃ c cs, digitChars n = c :: cs ∧ c ≠ '0' := by
  cases isDigits : digitChars n with
  | nil => exact absurd isDigits (digitChars_ne_nil n)
  | cons c cs =>
      refine ⟨c, cs, rfl, ?_⟩
      rintro rfl
      have digits := isDigits_digitChars n
      have least := le_digitChars_length positive
      have isValue := value_digitChars n
      rw [isDigits] at digits least isValue
      have less := ofDigits_less (digitValues_less digits.tail)
      have zero : value ('0' :: cs) = value cs := by
        have split := @value_append ['0'] _ digits.tail
        rw [List.singleton_append] at split
        have zero : value ['0'] = 0 := rfl
        rw [split, zero, Nat.zero_mul, Nat.zero_add]
      rw [zero] at isValue
      rw [digits.tail.length_values] at less
      change value cs < 10 ^ cs.length at less
      simp only [List.length_cons, Nat.add_sub_cancel] at least
      omega

theorem isIntegerText_signed (negative : Bool) (n : Nat) :
    isIntegerText (signText negative ++ digitChars n) = true := by
  have digits := isDigits_digitChars n
  have noSign := @noSign_digits _ [] digits (digitChars_ne_nil n)
  rw [List.append_nil] at noSign
  unfold isIntegerText
  simp only [splitSign_signed negative noSign]
  by_cases zero : n = 0
  · subst zero
    rfl
  · obtain ⟨c, cs, isDigits, notZero⟩ := digitChars_cons (Nat.pos_of_ne_zero zero)
    rw [isDigits] at digits ⊢
    have whole : (c :: cs).takeWhile isDigitOrBar = c :: cs := by
      rw [List.takeWhile_eq_self_iff]
      exact digitBar_digits digits
    split
    · next same => exact absurd (List.cons.inj same).1 notZero
    · next same => exact absurd (List.cons.inj same).1 notZero
    · next same => exact absurd (List.cons.inj same).1 notZero
    · unfold isDecimalInteger
      rw [whole]
      simp [digits.head, notZero, isSixties, fields]

theorem readInteger_digits {cs : List Char} (digits : IsDigits cs) (more : cs ≠ [])
    (short : cs.length ≤ digitLimit) : readInteger 10 cs = .ok (value cs) := by
  have values : ∀ c ∈ cs, digitIn? 10 c = decimalValue? c := by
    intro c inside
    have bounds := (isAsciiDigit_iff c).mp (digits c inside)
    rw [← digitIn?_plainChar, plainChar_ascii (by omega)]
  have decimal : ∀ c ∈ cs, isDecimal c = true := by
    intro c inside
    rw [isDecimal, ← values c inside, digitIn_ten (digits c inside)]
    rfl
  have plain : ∀ c ∈ cs, isPlain c = true := by
    intro c inside
    rw [isPlain, isAnyDigit_of_isDecimal (decimal c inside), Bool.or_true]
  have begun := (isWord_digits digits).dropWhile_blanks
  have run : leadingDigits cs = cs := by
    rw [leadingDigits, begun, List.takeWhile_eq_self_iff]
    exact decimal
  have rest : (cs.dropWhile isDecimal).all isWhiteSpace = true := by
    rw [List.dropWhile_eq_nil_iff.mpr decimal]
    rfl
  rw [readInteger_plain plain, run, begun, rest, if_neg more, if_neg (by omega), if_pos rfl,
    ← List.filterMap_congr values]
  rfl

theorem unsigned_signed (negative : Bool) {cs : List Char} (word : IsWord cs)
    (noSign : cs.head?.all fun c => c != '-' && c != '+') :
    unsigned (signText negative ++ cs) = (negative, cs) := by
  unfold unsigned
  rw [((isWord_sign negative).append word).filter_bars, splitSign_signed negative noSign]

theorem magnitude_digitChars {n : Nat} (short : (digitChars n).length ≤ digitLimit) :
    magnitude (digitChars n) = .ok (n : Int) := by
  have digits := isDigits_digitChars n
  have isValue := value_digitChars n
  by_cases zero : n = 0
  · subst zero
    rfl
  · have read := readInteger_digits digits (digitChars_ne_nil n) short
    obtain ⟨c, cs, isDigits, notZero⟩ := digitChars_cons (Nat.pos_of_ne_zero zero)
    rw [isDigits] at digits isValue read ⊢
    have noColon : (c :: cs).contains ':' = false := by
      rw [List.contains_eq_mem, decide_eq_false_iff_not]
      exact (isWord_digits digits).not_mem rfl
    unfold magnitude
    split
    · next same => cases same
    · next same => exact absurd (List.cons.inj same).1 notZero
    · next same => exact absurd (List.cons.inj same).1 notZero
    · next same => exact absurd (List.cons.inj same).1 notZero
    · rw [noColon, if_neg Bool.false_ne_true, wholeOf, read, isValue]
      rfl

theorem integerOf_toString {n : Int} (short : (digitChars n.natAbs).length ≤ digitLimit) :
    integerOf (toString n).toList = .ok n := by
  have digits := isDigits_digitChars n.natAbs
  have noSign := @noSign_digits _ [] digits (digitChars_ne_nil _)
  rw [List.append_nil] at noSign
  have isUnsigned := unsigned_signed (n < 0) (isWord_digits digits) noSign
  unfold integerOf
  rw [toString_int]
  simp only [isUnsigned, magnitude_digitChars short]
  by_cases below : n < 0
  · simp only [below]
    change Except.ok (-(n.natAbs : Int)) = Except.ok n
    congr 1
    omega
  · simp only [below]
    change Except.ok (n.natAbs : Int) = Except.ok n
    congr 1
    omega

theorem allowsPlain_signed (negative : Bool) {c : Char} {cs : List Char} (word : IsWord (c :: cs))
    (digit : isAsciiDigit c = true) : allowsPlain (signText negative ++ c :: cs) = true := by
  have noSign : c ≠ '-' := by
    rintro rfl
    cases digit
  have noPoint : c ≠ '.' := by
    rintro rfl
    cases digit
  cases negative with
  | false =>
      exact word.allowsPlain (fun isSign => absurd isSign noSign)
        fun isPoint => absurd isPoint noPoint
  | true =>
      apply ((isWord_sign true).append word).allowsPlain
      · intro _
        simpa using noSign
      · intro isPoint
        cases isPoint

theorem head_signed (negative : Bool) {c : Char} {cs : List Char} (digit : isAsciiDigit c = true) :
    (signText negative ++ c :: cs).head?.any isNumberHead = true := by
  cases negative
  · simp [signText, isNumberHead, digit]
  · rfl

theorem says_int {n : Int} (short : (digitChars n.natAbs).length ≤ digitLimit) :
    Says (toString n).toList (.int n) := by
  have value := integerOf_toString short
  have digits := isDigits_digitChars n.natAbs
  have isInteger := isIntegerText_signed (n < 0) n.natAbs
  rw [toString_int] at value ⊢
  cases isDigits : digitChars n.natAbs with
  | nil => exact absurd isDigits (digitChars_ne_nil _)
  | cons c cs =>
      rw [isDigits] at value digits isInteger
      have word : IsWord (signText (n < 0) ++ c :: cs) :=
        (isWord_sign _).append (isWord_digits digits)
      have isInt : Tag.implied (signText (n < 0) ++ c :: cs) = .int := by
        rw [implied_number (head_signed _ digits.head) word, if_pos isInteger]
      refine ⟨List.append_ne_nil_of_right_ne_nil _ (List.cons_ne_nil _ _), word,
        allowsPlain_signed _ (isWord_digits digits) digits.head, ?_, ?_⟩
      · rw [isInt]
        rfl
      · intro place
        rw [isInt]
        unfold scalarValue
        rw [value]
        rfl

end HatReel.Yaml
