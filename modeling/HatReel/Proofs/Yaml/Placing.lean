import HatReel.Proofs.Yaml.Running

/-! Where the lexer reads next.

Gaps are stepped over up to a visible character, and a visible character that is no indicator begins
a plain scalar. -/

namespace HatReel.Yaml

namespace Lexer

variable {s : Lexer} {k : Nat} {rest : List Char}

theorem skipOrderMark_eq (other : s.cursor.peek ≠ '\ufeff') : s.skipOrderMark = s := by
  unfold skipOrderMark
  rw [beq_eq_false_iff_ne.mpr other, Bool.and_false]
  rfl

theorem skipComment_blanks (resumes : Resumes k rest) (n : Nat) {c : Cursor}
    (here : c.rest = blanks n ++ rest) :
    c.skipComment = ⟨rest, c.index + n, c.line, c.column + n⟩ := by
  have skipped := Cursor.skipWhile_blanks (p := (· == ' ')) rfl n here resumes.noSpace
  obtain ⟨_, _, noComment, _⟩ :=
    resumes.peek (c := ⟨rest, c.index + n, c.line, c.column + n⟩) rfl
  unfold Cursor.skipComment
  rw [skipped]
  simp [noComment]

theorem skipGaps_blanks (resumes : Resumes k rest) (n m : Nat)
    (here : s.cursor.rest = blanks n ++ rest) :
    s.skipGaps (m + 1) =
      { s with cursor := ⟨rest, s.cursor.index + n, s.cursor.line, s.cursor.column + n⟩ } := by
  have skipped := skipComment_blanks resumes n here
  have noBreak := (resumes.peek
    (c := ⟨rest, s.cursor.index + n, s.cursor.line, s.cursor.column + n⟩) rfl).1
  rw [skipGaps, skipped]
  simp only [noBreak, Bool.false_eq_true, if_false]

theorem skipGaps_newLine (resumes : Resumes k rest) (m : Nat) (isBlock : s.depth = 0)
    (here : s.cursor.rest = newLine k ++ rest) :
    s.skipGaps (m + 2) = { s with
      cursor := ⟨rest, s.cursor.index + 1 + k, s.cursor.line + 1, k⟩
      keyAllowed := true } := by
  have stays : s.cursor.skipComment = s.cursor := by
    have noBlank : s.cursor.skipWhile (· == ' ') = s.cursor := by
      unfold Cursor.skipWhile
      rw [here]
      rfl
    have noComment : (s.cursor.peek == '#') = false := by
      rw [Cursor.peek_cons here]
      rfl
    unfold Cursor.skipComment
    rw [noBlank]
    simp only [noComment, Bool.false_eq_true, if_false]
  have isLineEnd : s.cursor.peek = '\n' := Cursor.peek_cons here
  have next := @Cursor.step_newLine s.cursor (blanks k ++ rest) here
  have noFlow : s.inFlow = false := by
    unfold inFlow
    rw [isBlock]
    rfl
  rw [skipGaps, stays, isLineEnd, next, noFlow]
  have others := skipGaps_blanks resumes k m
    (s := { s with cursor := ⟨blanks k ++ rest, s.cursor.index + 1, s.cursor.line + 1, 0⟩,
                   keyAllowed := s.keyAllowed || !false }) rfl
  simpa [isBreak] using others

end Lexer

structure BeginsText (c : Char) (rest : List Char) : Prop where
  visible : isVisible c = true
  noLead : leadIndicators.contains c = false
  apart : c = '-' ∨ c = '?' ∨ c = ':' → ∃ d more, rest = d :: more ∧ isVisible d = true

theorem beginsText_of_allowsPlain {c : Char} {rest : List Char}
    (plain : allowsPlain (c :: rest) = true) : BeginsText c rest := by
  have flowing := isFlowing_of_allowsPlain (List.cons_ne_nil c rest) plain
  simp only [allowsPlain, Bool.not_eq_true', Bool.or_eq_false_iff] at plain
  have begins := plain.1.2
  simp only [beginsAsIndicator, Bool.or_eq_false_iff] at begins
  obtain ⟨⟨⟨noLead, _⟩, _⟩, noMark⟩ := begins
  obtain ⟨first, isFirst, visible⟩ := flowing.first
  cases isFirst
  refine ⟨visible, noLead, ?_⟩
  intro isMark
  have inner := flowing.inner
  simp only [hasInnerIndicator, Bool.or_eq_false_iff, beq_eq_false_iff_ne] at inner
  obtain ⟨⟨colons, lastColon⟩, _⟩ := inner
  have noGap : isGapOrEnd (rest.headD '\x00') = false := by
    rcases isMark with rfl | rfl | rfl
    · simpa using noMark
    · simpa using noMark
    · cases rest with
      | nil => exact absurd rfl lastColon
      | cons d more =>
          simp only [hasPair, Bool.or_eq_false_iff] at colons
          simpa using colons.1
  cases rest with
  | nil => cases noGap
  | cons d more =>
      have noSpace : d ≠ ' ' := by
        rintro rfl
        cases noGap
      have printable := flowing.printable d (List.mem_cons_of_mem c List.mem_cons_self)
      exact ⟨d, more, rfl, isVisible_of_printable printable noSpace⟩

theorem ne_of_lead {c d : Char} (noLead : leadIndicators.contains c = false)
    (isLead : leadIndicators.contains d = true) : c ≠ d := by
  rintro rfl
  rw [isLead] at noLead
  cases noLead

theorem indicators_lead : ∀ d ∈ Lexer.indicators,
    leadIndicators.contains d = true ∨ d = '-' ∨ d = '?' ∨ d = ':' := by
  have all : Lexer.indicators.all (fun d =>
      leadIndicators.contains d || (d == '-' || (d == '?' || d == ':'))) = true := by decide +kernel
  intro d member
  have one := List.all_eq_true.mp all d member
  simpa only [Bool.or_eq_true, beq_iff_eq] using one

namespace Lexer

variable {s : Lexer} {c : Char} {rest : List Char}

/-- An indicator that may also begin text stands before other text here. -/
theorem apart_ahead (begins : BeginsText c rest) (here : s.cursor.rest = c :: rest)
    (isMark : c = '-' ∨ c = '?' ∨ c = ':') : isGapOrEnd (s.cursor.ahead 1) = false := by
  obtain ⟨d, others, rfl, visible⟩ := begins.apart isMark
  unfold Cursor.ahead
  rw [here]
  exact isGapOrEnd_visible visible

theorem beginsPlain_eq (begins : BeginsText c rest) (here : s.cursor.rest = c :: rest)
    (isBlock : s.depth = 0) : s.beginsPlain = true := by
  have isChar : s.cursor.peek = c := Cursor.peek_cons here
  have noFlow : s.inFlow = false := by
    unfold inFlow
    rw [isBlock]
    rfl
  have noGap := isGapOrEnd_visible begins.visible
  unfold beginsPlain
  rw [isChar]
  by_cases isMark : c = '-' ∨ c = '?' ∨ c = ':'
  · rw [apart_ahead begins here isMark, noFlow]
    rcases isMark with rfl | rfl | rfl <;> simp
  · have noIndicator : indicators.contains c = false := by
      rw [List.contains_eq_any_beq, List.any_eq_false]
      intro d inside same
      rw [← beq_iff_eq.mp same] at inside
      cases indicators_lead c inside with
      | inl isLead => exact ne_of_lead begins.noLead isLead rfl
      | inr isMark' => exact isMark isMark'
    simp only [noGap, noIndicator]
    rfl

theorem readToken_plain (begins : BeginsText c rest) (here : s.cursor.rest = c :: rest)
    (isBlock : s.depth = 0) (margin : s.cursor.column = 0 → c ≠ '-' ∧ c ≠ '.') :
    s.readToken = s.readPlainScalar := by
  have other (d : Char) (isLead : leadIndicators.contains d = true) : (c == d) = false :=
    beq_eq_false_iff_ne.mpr (ne_of_lead begins.noLead isLead)
  have isChar : s.cursor.peek = c := Cursor.peek_cons here
  have more : s.cursor.rest.isEmpty = false := by
    rw [here]
    rfl
  have noFlow : s.inFlow = false := by
    unfold inFlow
    rw [isBlock]
    rfl
  have noMark (d : Char) (isMark : d = '-' ∨ d = '?' ∨ d = ':') :
      (c == d && isGapOrEnd (s.cursor.ahead 1)) = false := by
    by_cases same : c = d
    · rw [apart_ahead begins here (same ▸ isMark), Bool.and_false]
    · rw [beq_eq_false_iff_ne.mpr same, Bool.false_and]
  have noMarker (d : Char) (differs : s.cursor.column = 0 → c ≠ d) :
      (s.cursor.column == 0 && s.cursor.isMarker d) = false := by
    by_cases isMargin : s.cursor.column = 0
    · have differs' : s.cursor.rest.head? ≠ some d := by
        rw [here]
        simpa using differs isMargin
      rw [Cursor.isMarker_false differs', Bool.and_false]
    · rw [beq_eq_false_iff_ne.mpr isMargin, Bool.false_and]
  unfold readToken isIndicator
  simp only [more, isChar, noFlow, beginsPlain_eq begins here isBlock,
    noMarker '-' fun isMargin => (margin isMargin).1,
    noMarker '.' fun isMargin => (margin isMargin).2,
    noMark '-' (.inl rfl), noMark '?' (.inr (.inl rfl)), noMark ':' (.inr (.inr rfl)),
    other '%' (by decide +kernel), other '[' (by decide +kernel), other '\x7b' (by decide +kernel),
    other ']' (by decide +kernel), other '\x7d' (by decide +kernel), other ',' (by decide +kernel),
    other '*' (by decide +kernel), other '&' (by decide +kernel), other '!' (by decide +kernel),
    other '|' (by decide +kernel), other '>' (by decide +kernel), other '\x27' (by decide +kernel),
    other '\x22' (by decide +kernel), Bool.false_eq_true, if_false, if_true, Bool.false_and,
    Bool.false_or]

end Lexer

end HatReel.Yaml
