import Mathlib
import HatReel.Proofs.Yaml.Numbers

/-! Numbers that need not be whole, as words.

Such a number is written with a point, so that its text implies its tag, and reading the text gives
the very same double. -/

namespace HatReel.Yaml

open HatReel.Binary HatReel.Decimal HatReel.Document HatReel.Text

theorem isWord_exponent (e : Int) : IsWord (exponentText e) := by
  have digits : IsWord (zeros (2 - (digitChars e.natAbs).length) ++ digitChars e.natAbs) :=
    isWord_digits ((isDigits_zeros _).append (isDigits_digitChars _))
  unfold exponentText
  apply digits.cons
  split <;> rfl

theorem isWord_spelled (d : Spelled) : IsWord d.text := by
  have ending : IsWord d.ending := by
    unfold Spelled.ending
    cases d.exponent with
    | none => exact fun c inside => absurd inside List.not_mem_nil
    | some e => exact (isWord_exponent e).cons rfl
  exact (isWord_digits d.wholeDigits).append
    (((isWord_digits d.fractionDigits).append ending).cons rfl)

theorem spelled_cons (d : Spelled) :
    ∃ c cs, d.whole = c :: cs ∧ isAsciiDigit c = true ∧
      d.text = c :: (cs ++ '.' :: (d.fraction ++ d.ending)) := by
  have digits := d.wholeDigits
  have more := d.wholeSome
  unfold Spelled.text
  cases isWhole : d.whole with
  | nil => exact absurd isWhole more
  | cons c cs =>
      rw [isWhole] at digits
      exact ⟨c, cs, rfl, digits.head, rfl⟩

theorem digitBar_whole (d : Spelled) : d.text.takeWhile isDigitOrBar = d.whole := by
  unfold Spelled.text
  rw [List.takeWhile_append_of_pos (digitBar_digits d.wholeDigits), List.takeWhile_cons]
  simp [isDigitOrBar, isAsciiDigit]

theorem drop_whole (d : Spelled) : d.text.drop d.whole.length = '.' :: (d.fraction ++ d.ending) :=
  List.drop_left

theorem noSign_spelled (d : Spelled) : d.text.head?.all (fun c => c != '-' && c != '+') = true :=
  noSign_digits d.wholeDigits d.wholeSome

theorem isIntegerText_spelled (negative : Bool) (d : Spelled) :
    isIntegerText (signText negative ++ d.text) = false := by
  obtain ⟨c, cs, isWhole, digit, isText⟩ := spelled_cons d
  have digits := d.wholeDigits
  have taken := digitBar_whole d
  have dropped := drop_whole d
  unfold isIntegerText
  simp only [splitSign_signed negative (noSign_spelled d)]
  rw [isWhole] at digits taken dropped
  rw [isText] at taken dropped ⊢
  have octal : ∀ ds : List Char, '.' ∈ ds →
      (ds.all fun c => c == '_' || (48 ≤ c.toNat && c.toNat ≤ 55)) = false := by
    intro ds inside
    rw [List.all_eq_false]
    exact ⟨'.', inside, by decide⟩
  have second : ∀ e ds, e ≠ '.' → isAsciiDigit e = false →
      cs ++ '.' :: (d.fraction ++ d.ending) ≠ e :: ds := by
    intro e ds noPoint noDigit same
    cases cs with
    | nil => exact noPoint (List.cons.inj same).1.symm
    | cons c' cs =>
        have isDigit := digits.tail.head
        rw [(List.cons.inj same).1, noDigit] at isDigit
        cases isDigit
  split
  · next same => exact absurd (List.cons.inj same).2 (second 'b' _ (by decide) rfl)
  · next same => exact absurd (List.cons.inj same).2 (second 'x' _ (by decide) rfl)
  · next same =>
    rw [← (List.cons.inj same).2]
    exact octal _ (List.mem_append_right _ List.mem_cons_self)
  · unfold isDecimalInteger
    simp only [taken, dropped]
    have point : isSixties ('.' :: (d.fraction ++ d.ending)) = false := by
      unfold isSixties
      rw [fields, if_neg (by decide)]
      cases fields ':' (d.fraction ++ d.ending) <;> rfl
    simp [point]

theorem isFraction_spelled (d : Spelled) : isFraction (d.fraction ++ d.ending) = true := by
  unfold isFraction
  rw [List.dropWhile_append_of_pos (digitBar_digits d.fractionDigits)]
  unfold Spelled.ending
  cases d.exponent with
  | none => rfl
  | some e =>
      have digits : IsDigits (zeros (2 - (digitChars e.natAbs).length) ++ digitChars e.natAbs) :=
        (isDigits_zeros _).append (isDigits_digitChars _)
      have notEmpty : (zeros (2 - (digitChars e.natAbs).length) ++
          digitChars e.natAbs).isEmpty = false := by
        simp [digitChars_ne_nil]
      simp only [exponentText]
      rw [List.dropWhile_cons, if_neg (by decide), isExponent, notEmpty, digits.all]
      split <;> rfl

theorem isFloatText_spelled (negative : Bool) (d : Spelled) :
    isFloatText (signText negative ++ d.text) = true := by
  obtain ⟨c, cs, isWhole, digit, isText⟩ := spelled_cons d
  have taken := digitBar_whole d
  have dropped := drop_whole d
  have fraction := isFraction_spelled d
  unfold isFloatText
  simp only [splitSign_signed negative (noSign_spelled d)]
  rw [isWhole] at taken dropped
  rw [isText] at taken dropped ⊢
  split
  · next same =>
    rw [(List.cons.inj same).1] at digit
    cases digit
  · unfold isPointed
    simp only [taken, dropped]
    simp [digit, fraction]

theorem readNumber_spelled (d : Spelled) :
    Decimal.readNumber d.text = readFraction false d.text := by
  have isUnsigned := splitSign_signed false (noSign_spelled d)
  obtain ⟨c, cs, _, digit, isText⟩ := spelled_cons d
  change splitSign d.text = (false, d.text) at isUnsigned
  have bounds := (isAsciiDigit_iff c).mp digit
  have noWord (word : String) (head : ∀ e ∈ word.toList.head?, isAsciiDigit e = false) :
      (lowerWord d.text == word) = false := by
    rw [beq_eq_false_iff_ne]
    intro same
    have letters := congrArg String.toList same
    unfold lowerWord at letters
    rw [String.toList_ofList, isText, List.map_cons, if_neg (by simp; omega)] at letters
    have noDigit := head c (by rw [← letters]; rfl)
    rw [digit] at noDigit
    cases noDigit
  unfold Decimal.readNumber
  simp only [isUnsigned, noWord "inf" (by simp; decide), noWord "infinity" (by simp; decide),
    noWord "nan" (by simp; decide)]
  simp

theorem realOf_spelled (d : Spelled) {x : Float} (read : readFraction false d.text = some x) :
    realOf d.text = .ok x := by
  have word := isWord_spelled d
  unfold realOf readFloat
  simp only [word.map_plainChar, word.trim, word.filter_bars, readNumber_spelled, read,
    separates_noBars _ _ (word.not_mem (c := '_') rfl)]
  simp

/-- Reading a spelling with its sign gives what reading the digits gives, with the sign. -/
theorem floatOf_spelled (negative : Bool) (d : Spelled) {x : Float}
    (read : readFraction false d.text = some x) :
    floatOf (signText negative ++ d.text) = .ok (if negative then -x else x) := by
  have word := isWord_spelled d
  have isUnsigned := unsigned_signed negative word (noSign_spelled d)
  have real := realOf_spelled d read
  obtain ⟨c, cs, _, digit, isText⟩ := spelled_cons d
  have noPoint : c ≠ '.' := by
    rintro rfl
    cases digit
  have noMark (rest : List Char) : (d.text == '.' :: rest) = false := by
    rw [beq_eq_false_iff_ne, isText]
    intro same
    exact noPoint (List.cons.inj same).1
  have noColon : d.text.contains ':' = false := by
    rw [List.contains_eq_mem, decide_eq_false_iff_not]
    exact word.not_mem rfl
  have notEmpty : d.text.isEmpty = false := by rw [isText]; rfl
  have isMagnitude : realMagnitude d.text = .ok x := by
    unfold realMagnitude
    have infinite : ".inf".toList = '.' :: "inf".toList := rfl
    have notNumber : ".nan".toList = '.' :: "nan".toList := rfl
    rw [infinite, notNumber, noMark, noMark, noColon]
    exact real
  unfold floatOf
  simp only [((isWord_sign negative).append word).map_lowerAscii, isUnsigned, notEmpty,
    isMagnitude]
  cases negative <;> rfl

theorem exponent_chars {e : Int} {c : Char} (inside : c ∈ exponentText e) :
    isAsciiDigit c = true ∨ c = '-' ∨ c = '+' := by
  have digits : IsDigits (zeros (2 - (digitChars e.natAbs).length) ++ digitChars e.natAbs) :=
    (isDigits_zeros _).append (isDigits_digitChars _)
  unfold exponentText at inside
  cases List.mem_cons.mp inside with
  | inl isSign =>
      right
      split at isSign
      · exact Or.inl isSign
      · exact Or.inr isSign
  | inr inDigits => exact Or.inl (digits _ inDigits)

theorem ne_exponent {e : Int} {c d : Char} (inside : c ∈ exponentText e)
    (noDigit : isAsciiDigit d = false) (noSign : d ≠ '-' ∧ d ≠ '+') : c ≠ d := by
  rintro rfl
  rcases exponent_chars inside with digit | isSign | isSign
  · rw [digit] at noDigit
    cases noDigit
  · exact noSign.1 isSign
  · exact noSign.2 isSign

theorem ne_sign {negative : Bool} {c d : Char} (inside : c ∈ signText negative) (noSign : d ≠ '-') :
    c ≠ d := by
  rintro rfl
  cases negative with
  | false => cases inside
  | true => exact noSign (List.mem_singleton.mp inside)

theorem flatMap_digit (negative : Bool) {c : Char} (digit : isAsciiDigit c = true) (e : Int) :
    (signText negative ++ c :: 'e' :: exponentText e).flatMap
        (fun c => if c == 'e' then ['.', '0', 'e'] else [c]) =
      signText negative ++ c :: '.' :: '0' :: 'e' :: exponentText e := by
  have same (cs : List Char) (noE : ∀ c ∈ cs, c ≠ 'e') :
      cs.flatMap (fun c => if c == 'e' then ['.', '0', 'e'] else [c]) = cs := by
    induction cs with
    | nil => rfl
    | cons d cs ih =>
        have first := noE d List.mem_cons_self
        rw [List.flatMap_cons, ih fun c inside => noE c (List.mem_cons_of_mem d inside),
          if_neg (by simpa using first)]
        rfl
  have noE : c ≠ 'e' := by
    rintro rfl
    cases digit
  rw [List.flatMap_append, same _ fun c inside => ne_sign inside (by decide), List.flatMap_cons,
    List.flatMap_cons, same _ fun c inside => ne_exponent inside rfl (by decide),
    if_neg (by simpa using noE), if_pos (beq_self_eq_true 'e')]
  rfl

theorem realText_finite {x : Float} {negative : Bool} {m : Nat} {e : Int}
    (isParts : parts x = .finite negative m e) :
    ∃ d : Spelled, realText x = signText negative ++ d.text ∧
      readFraction false d.text = some (ofCode false (x.toBits.toNat % 2 ^ 63)) := by
  have finite := isFinite_of_parts isParts
  unfold realText shortestText
  rw [isParts]
  simp only
  rw [String.toList_ofList]
  by_cases zero : m = 0
  · have digit : IsDigits ['0'] := isDigits_zeros 1
    refine ⟨⟨['0'], ['0'], .none, digit, List.cons_ne_nil _ _, digit, List.cons_ne_nil _ _⟩, ?_, ?_⟩
    · rw [if_pos zero, if_pos (by simp)]
      rfl
    · rw [finite.zero zero, Spelled.readFraction_text]
      rfl
  · have code := shortest_code isParts zero
    have positive : 0 < (shortest x).code := by
      rw [code, finite.code zero]
      omega
    have less : (shortest x).code < double.infinity := by
      rw [code]
      exact finite.less
    rw [if_neg zero]
    cases (shortest x).text_spelled with
    | inl withPoint =>
        obtain ⟨d, isText, isValue⟩ := withPoint
        have hasPoint : '.' ∈ d.text := List.mem_append_right _ List.mem_cons_self
        refine ⟨d, ?_, ?_⟩
        · rw [isText, if_pos (by simp [hasPoint])]
        · rw [d.readFraction_code false isValue positive less, code]
    | inr oneDigit =>
        obtain ⟨c, e, digit, isText, isValue⟩ := oneDigit
        obtain ⟨d, isSpelled, isSame⟩ := spelled_of_digit digit e
        have noPoint : (signText negative ++ c :: 'e' :: exponentText e).contains '.' = false := by
          rw [List.contains_eq_mem, decide_eq_false_iff_not]
          intro inside
          rcases List.mem_append.mp inside with sign | inside
          · exact ne_sign sign (d := '.') (by decide) rfl
          rcases List.mem_cons.mp inside with rfl | inside
          · cases digit
          rcases List.mem_cons.mp inside with isE | inside
          · cases isE
          · exact ne_exponent inside (d := '.') rfl (by decide) rfl
        refine ⟨d, ?_, ?_⟩
        · rw [isText, noPoint, if_neg Bool.false_ne_true, flatMap_digit negative digit, isSpelled]
        · rw [d.readFraction_code false (isSame.trans isValue) positive less, code]

theorem says_float {cs : List Char} {x : Float} (filled : cs ≠ []) (word : IsWord cs)
    (plain : allowsPlain cs = true) (isTag : Tag.implied cs = .float)
    (isValue : floatOf cs = .ok x) :
    Says cs (.float x) := by
  refine ⟨filled, word, plain, by rw [isTag]; rfl, fun place => ?_⟩
  rw [isTag]
  unfold scalarValue
  rw [isValue]
  rfl

theorem says_notANumber : Says ".nan".toList (.float notANumber) :=
  says_float (by decide +kernel) (by decide +kernel) (by decide +kernel)
    (by decide +kernel) (by cbv)

theorem says_infinity (negative : Bool) :
    Says (signText negative ++ ".inf".toList) (.float (infinity negative)) := by
  have isValue : floatOf (signText negative ++ ".inf".toList) = .ok (infinity negative) := by
    cases negative with
    | false => cbv
    | true =>
        have negated : floatOf (signText true ++ ".inf".toList) = .ok (-infinity false) := by cbv
        rw [negated, neg_infinity]
  refine says_float ?_ ?_ ?_ ?_ isValue <;> cases negative <;> decide +kernel

theorem says_spelled (negative : Bool) (d : Spelled) {x : Float}
    (isValue : floatOf (signText negative ++ d.text) = .ok x) :
    Says (signText negative ++ d.text) (.float x) := by
  have word : IsWord (signText negative ++ d.text) := (isWord_sign _).append (isWord_spelled d)
  have notInteger := isIntegerText_spelled negative d
  have isFloat := isFloatText_spelled negative d
  obtain ⟨c, cs, _, digit, isDigits⟩ := spelled_cons d
  rw [isDigits] at word notInteger isFloat isValue ⊢
  refine says_float (List.append_ne_nil_of_right_ne_nil _ (List.cons_ne_nil _ _)) word
    (allowsPlain_signed negative (fun c inside => word c (List.mem_append_right _ inside)) digit)
    ?_ isValue
  rw [implied_number (head_signed negative digit) word, notInteger, isFloat]
  rfl

/-- Every number says itself, also one that is not finite. -/
theorem says_real (x : Float) : Says (realText x) (.float x) := by
  cases isParts : parts x with
  | nan =>
      have isText : realText x = ".nan".toList := by
        unfold realText
        rw [isParts]
      rw [isText, eq_notANumber isParts]
      exact says_notANumber
  | infinite negative =>
      have isText : realText x = signText negative ++ ".inf".toList := by
        unfold realText
        rw [isParts]
        cases negative <;> rfl
      rw [isText, eq_infinity isParts]
      exact says_infinity negative
  | finite negative m e =>
      obtain ⟨d, isText, read⟩ := realText_finite isParts
      have finite := isFinite_of_parts isParts
      have signed : (if negative then -ofCode false (x.toBits.toNat % 2 ^ 63)
          else ofCode false (x.toBits.toNat % 2 ^ 63)) = x := by
        cases negative with
        | false => exact finite.eq.symm
        | true =>
            rw [if_pos rfl, neg_ofCode finite.less.le]
            exact finite.eq.symm
      have isValue := floatOf_spelled negative d read
      rw [signed] at isValue
      rw [isText]
      exact says_spelled negative d isValue

end HatReel.Yaml
