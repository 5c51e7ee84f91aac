import HatReel.Proofs.Yaml.Characters
import HatReel.Yaml.ScalarValue

/-! Words: texts without gaps that numbers, switches and null are written as.

A word is made of digits, small letters, points and signs. It can stand without quotes unless it
begins with two signs or two points, and no reader of characters changes any of it. -/

namespace HatReel.Yaml

open HatReel.Decimal HatReel.Text

def isWordChar (c : Char) : Bool :=
  isAsciiDigit c || (97 ≤ c.toNat && c.toNat ≤ 122) || c == '+' || c == '-' || c == '.'

def IsWord (cs : List Char) : Prop := ∀ c ∈ cs, isWordChar c = true

instance (cs : List Char) : Decidable (IsWord cs) :=
  List.decidableBAll _ cs

theorem isWordChar_iff (c : Char) : isWordChar c = true ↔
    (48 ≤ c.toNat ∧ c.toNat ≤ 57) ∨ (97 ≤ c.toNat ∧ c.toNat ≤ 122) ∨ c.toNat = 43 ∨
      c.toNat = 45 ∨ c.toNat = 46 := by
  simp only [isWordChar, isAsciiDigit, Bool.or_eq_true, Bool.and_eq_true, decide_eq_true_eq,
    beq_iff_eq, char_eq_iff]
  have plus : '+'.toNat = 43 := rfl
  have minus : '-'.toNat = 45 := rfl
  have point : '.'.toNat = 46 := rfl
  omega

theorem isWordChar_digit {c : Char} (digit : isAsciiDigit c = true) : isWordChar c = true := by
  simp [isWordChar, digit]

theorem isVisible_word {c : Char} (word : isWordChar c = true) : isVisible c = true := by
  rw [isWordChar_iff] at word
  rw [isVisible_iff]
  omega

theorem ne_of_word {c d : Char} (word : isWordChar c = true) (other : isWordChar d = false) :
    c ≠ d := by
  rintro rfl
  rw [word] at other
  cases other

theorem lowerAscii_word {c : Char} (word : isWordChar c = true) : lowerAscii c = c := by
  rw [isWordChar_iff] at word
  unfold lowerAscii
  rw [if_neg]
  simp only [Bool.and_eq_true, decide_eq_true_eq]
  omega

theorem plainChar_word {c : Char} (word : isWordChar c = true) : plainChar c = c := by
  rw [isWordChar_iff] at word
  unfold plainChar
  rw [if_pos (by omega)]

theorem isWhiteSpace_word {c : Char} (word : isWordChar c = true) : isWhiteSpace c = false := by
  rw [isWordChar_iff] at word
  unfold isWhiteSpace
  simp only [Bool.or_eq_false_iff, Bool.and_eq_false_iff, decide_eq_false_iff_not,
    beq_eq_false_iff_ne]
  omega

theorem hasPair_of_left {p q : Char → Bool} {cs : List Char} (outside : ∀ c ∈ cs, p c = false) :
    hasPair p q cs = false := by
  induction cs with
  | nil => rfl
  | cons c cs ih =>
      cases cs with
      | nil => rfl
      | cons d cs =>
          have rest := ih fun e inside => outside e (List.mem_cons_of_mem c inside)
          rw [hasPair, outside c List.mem_cons_self, rest]
          rfl

theorem leadIndicators_word {c : Char} (word : isWordChar c = true) :
    leadIndicators.contains c = false := by
  have all : leadIndicators.all (fun d => !isWordChar d) = true := by decide +kernel
  have others : ∀ d ∈ leadIndicators, isWordChar d = false := by simpa using all
  rw [List.contains_eq_any_beq, List.any_eq_false]
  intro d inside same
  exact ne_of_word word (others d inside) (beq_iff_eq.mp same)

namespace IsWord

variable {cs : List Char}

theorem tail {c : Char} (word : IsWord (c :: cs)) : IsWord cs :=
  fun d inside => word d (List.mem_cons_of_mem c inside)

theorem head {c : Char} (word : IsWord (c :: cs)) : isWordChar c = true := word c List.mem_cons_self

theorem append {ds : List Char} (one : IsWord cs) (other : IsWord ds) : IsWord (cs ++ ds) := by
  intro c inside
  cases List.mem_append.mp inside with
  | inl left => exact one c left
  | inr right => exact other c right

theorem cons {c : Char} (first : isWordChar c = true) (rest : IsWord cs) : IsWord (c :: cs) := by
  intro d inside
  cases List.mem_cons.mp inside with
  | inl isFirst => exact isFirst ▸ first
  | inr inRest => exact rest d inRest

theorem not_mem (word : IsWord cs) {c : Char} (other : isWordChar c = false) : c ∉ cs := by
  intro inside
  rw [word c inside] at other
  cases other

theorem map_lowerAscii (word : IsWord cs) : cs.map lowerAscii = cs := by
  conv => rhs; rw [← List.map_id cs]
  exact List.map_congr_left fun c inside => lowerAscii_word (word c inside)

theorem map_plainChar (word : IsWord cs) : cs.map plainChar = cs := by
  conv => rhs; rw [← List.map_id cs]
  exact List.map_congr_left fun c inside => plainChar_word (word c inside)

theorem filter_bars (word : IsWord cs) : cs.filter (· != '_') = cs := by
  rw [List.filter_eq_self]
  intro c inside
  exact bne_iff_ne.mpr (ne_of_word (word c inside) rfl)

theorem dropWhile_blanks (word : IsWord cs) : cs.dropWhile isWhiteSpace = cs := by
  cases cs with
  | nil => rfl
  | cons c cs =>
      rw [List.dropWhile_cons, isWhiteSpace_word word.head]
      rfl

theorem reverse (word : IsWord cs) : IsWord cs.reverse :=
  fun c inside => word c (List.mem_reverse.mp inside)

theorem trim (word : IsWord cs) : trimWith isWhiteSpace cs = cs := by
  unfold trimWith
  rw [word.dropWhile_blanks, word.reverse.dropWhile_blanks, List.reverse_reverse]

theorem getLast?_ne (word : IsWord cs) {c : Char} (other : isWordChar c = false) :
    (cs.getLast? == some c) = false := by
  rw [beq_eq_false_iff_ne]
  intro isLast
  exact word.not_mem other (List.mem_of_getLast? isLast)

theorem any_false (word : IsWord cs) {p : Char → Bool}
    (other : ∀ c, isWordChar c = true → p c = false) : cs.any p = false := by
  rw [List.any_eq_false]
  intro c inside
  rw [other c (word c inside)]
  exact Bool.false_ne_true

theorem allowsPlain {c : Char} (word : IsWord (c :: cs)) (sign : c = '-' → cs.head?.any (· != '-'))
    (point : c = '.' → cs.head?.any (· != '.')) : allowsPlain (c :: cs) = true := by
  have edge (d : Char) (isWord : isWordChar d = true) : isEdge d = false := by
    have noSpace := ne_of_word (d := ' ') isWord rfl
    simp [isEdge, noSpace, isBreak_visible (isVisible_word isWord)]
  have lastEdge : (c :: cs).getLast?.any isEdge = false := by
    rw [Option.any_eq_false]
    exact fun d isLast => edge d (word d (List.mem_of_getLast? isLast))
  have special := word.any_false fun d isWord => isSpecial_visible (isVisible_word isWord)
  have breaks := word.any_false fun d isWord => isBreak_visible (isVisible_word isWord)
  have begins : beginsAsIndicator (c :: cs) = false := by
    have noQuestion := ne_of_word (d := '?') word.head rfl
    unfold beginsAsIndicator
    simp only [leadIndicators_word word.head, beq_eq_false_iff_ne.mpr noQuestion, Bool.false_or]
    cases cs with
    | nil =>
        have noSign : c ≠ '-' := fun isSign => Bool.noConfusion (sign isSign)
        simp [noSign]
    | cons d cs =>
        have noGap : isGapOrEnd d = false := isGapOrEnd_visible (isVisible_word word.tail.head)
        have noMarker : ∀ e, (c = e → (d :: cs).head?.any (· != e)) →
            ((c :: d :: cs).take 3 == [e, e, e]) = false := by
          intro e differs
          rw [beq_eq_false_iff_ne]
          intro same
          have first : c = e := (List.cons.inj same).1
          have second : d = e := (List.cons.inj (List.cons.inj same).2).1
          have other := differs first
          simp [second] at other
        rw [noMarker '-' sign, noMarker '.' point, List.headD_cons, noGap, Bool.and_false]
        rfl
  have inner : hasInnerIndicator (c :: cs) = false := by
    unfold hasInnerIndicator
    rw [hasPair_of_left, hasPair_of_left, word.getLast?_ne rfl]
    · rfl
    · exact fun d inside => isGapOrEnd_visible (isVisible_word (word d inside))
    · exact fun d inside => beq_eq_false_iff_ne.mpr (ne_of_word (word d inside) rfl)
  unfold Yaml.allowsPlain
  rw [lastEdge, special, breaks, begins, inner, List.head?_cons, Option.any_some,
    edge c word.head]
  rfl

end IsWord

end HatReel.Yaml
