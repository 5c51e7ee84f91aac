import HatReel.Proofs.Yaml.Places
import HatReel.Yaml.Quoted

/-! Scalars in quotes as they are read, piece by piece up to the closing quote. -/

namespace HatReel.Yaml

/-- Between quotes, reading `rest` gives `text` and stops before `tail`. -/
def Quotes (isDouble : Bool) (rest text tail : List Char) : Prop :=
  ∀ n c, c.rest = rest → rest.length < n →
    ∃ last, quotedFrom isDouble n c = .ok (⟨text, false⟩, last) ∧ last.rest = tail

def quoteMark (isDouble : Bool) : Char := if isDouble then '\x22' else '\x27'

variable {isDouble : Bool} {rest text tail : List Char}

theorem quotes_close (noQuote : isDouble = true ∨ tail.head? ≠ some '\x27') :
    Quotes isDouble (quoteMark isDouble :: tail) [] tail := by
  intro n c here fuel
  cases n with
  | zero => cases fuel
  | succ n =>
      have isQuote : c.peek = quoteMark isDouble := Cursor.peek_cons here
      have once : (!isDouble && c.ahead 1 == quoteMark isDouble) = false := by
        cases isDouble with
        | true => rfl
        | false =>
            have other : tail.head? ≠ some '\x27' := by simpa using noQuote
            unfold Cursor.ahead
            rw [here, List.getElem?_cons_succ, ← List.head?_eq_getElem?]
            cases tail with
            | nil => rfl
            | cons d tail => simpa [quoteMark] using other
      have isMark : (if isDouble then '\x22' else '\x27') = quoteMark isDouble := rfl
      refine ⟨c.step, ?_, by rw [Cursor.rest_step, here, List.tail_cons]⟩
      rw [quotedFrom, isMark, isQuote, once]
      simp

theorem quotes_piece {first : Char} (before piece : List Char)
    (step : ∀ c : Cursor, c.rest = first :: (before ++ rest) → ∃ next : Cursor, next.rest = rest ∧
      ∀ n text last, quotedFrom isDouble n next = .ok (⟨text, false⟩, last) →
        quotedFrom isDouble (n + 1) c = .ok (⟨piece ++ text, false⟩, last))
    (reads : Quotes isDouble rest text tail) :
    Quotes isDouble (first :: (before ++ rest)) (piece ++ text) tail := by
  intro n c here fuel
  cases n with
  | zero => cases fuel
  | succ n =>
      obtain ⟨next, isNext, goesOn⟩ := step c here
      have shorter : rest.length < n := by
        simp only [List.length_cons, List.length_append] at fuel
        omega
      obtain ⟨last, others, isTail⟩ := reads n next isNext shorter
      exact ⟨last, goesOn n text last others, isTail⟩

theorem quotes_char {ch : Char} (visible : isVisible ch = true) (noQuote : ch ≠ quoteMark isDouble)
    (noEscape : isDouble = true → ch ≠ '\\') (reads : Quotes isDouble rest text tail) :
    Quotes isDouble (ch :: rest) (ch :: text) tail := by
  apply quotes_piece [] [ch] _ reads
  intro c here
  refine ⟨c.step, by rw [Cursor.rest_step, here]; rfl, ?_⟩
  intro n text last others
  have isChar : c.peek = ch := Cursor.peek_cons here
  have noEscape : (isDouble && ch == '\\') = false := by
    cases isDouble with
    | false => rfl
    | true => simpa using noEscape
  have isMark : (if isDouble then '\x22' else '\x27') = quoteMark isDouble := rfl
  rw [quotedFrom, isMark, isChar, beq_eq_false_iff_ne.mpr noQuote, isGapOrEnd_visible visible,
    noEscape]
  simp only [Bool.false_eq_true, if_false, others]
  rfl

theorem quotes_quote (reads : Quotes false rest text tail) :
    Quotes false ('\x27' :: '\x27' :: rest) ('\x27' :: text) tail := by
  apply quotes_piece ['\x27'] ['\x27'] _ reads
  intro c here
  refine ⟨c.skip 2, by rw [Cursor.rest_skip, here]; rfl, ?_⟩
  intro n text last others
  have isChar : c.peek = '\x27' := Cursor.peek_cons here
  have twice : c.ahead 1 = '\x27' := by
    unfold Cursor.ahead
    rw [here]
    rfl
  rw [quotedFrom, isChar, twice]
  simp only [Bool.false_eq_true, if_false, beq_self_eq_true, Bool.not_false, Bool.and_true, if_true,
    others]
  rfl

theorem quotes_gap {first : Char} (before piece : List Char) (isGap : isGapOrEnd first = true)
    (noQuote : first ≠ quoteMark isDouble)
    (step : ∀ c : Cursor, c.rest = first :: (before ++ rest) →
      ∃ next : Cursor, next.rest = rest ∧ quotedGap c = .ok (⟨piece, false⟩, next))
    (reads : Quotes isDouble rest text tail) :
    Quotes isDouble (first :: (before ++ rest)) (piece ++ text) tail := by
  apply quotes_piece before piece _ reads
  intro c here
  obtain ⟨next, isNext, gap⟩ := step c here
  refine ⟨next, isNext, ?_⟩
  intro n text last others
  have isChar : c.peek = first := Cursor.peek_cons here
  have isMark : (if isDouble then '\x22' else '\x27') = quoteMark isDouble := rfl
  rw [quotedFrom, isMark, isChar, beq_eq_false_iff_ne.mpr noQuote, isGap, gap]
  simp only [Bool.false_eq_true, if_false, if_true, bind, Except.bind, others]
  rfl

theorem isBreak_peek {d : Char} {more : List Char} (visible : isVisible d = true) {c : Cursor}
    (here : c.rest = d :: more) : isBreak c.peek = false := by
  rw [Cursor.peek_cons here]
  exact isBreak_visible visible

theorem quotes_blanks {d : Char} {more : List Char} (visible : isVisible d = true) (k : Nat)
    (reads : Quotes isDouble (d :: more) text tail) :
    Quotes isDouble (blanks k ++ d :: more) (blanks k ++ text) tail := by
  cases k with
  | zero => exact reads
  | succ k =>
      have noQuote : ' ' ≠ quoteMark isDouble := by cases isDouble <;> decide
      apply quotes_gap (blanks k) (blanks (k + 1)) rfl noQuote _ reads
      intro c here
      have ends : (d :: more).head?.any isGap = false := isGap_visible visible
      have run := Cursor.run_blanks (p := isGap) rfl (k + 1) here ends
      have noBreak := isBreak_peek visible
        (c := ⟨d :: more, c.index + (k + 1), c.line, c.column + (k + 1)⟩) rfl
      refine ⟨⟨d :: more, c.index + (k + 1), c.line, c.column + (k + 1)⟩, rfl, ?_⟩
      unfold quotedGap
      simp only [run, noBreak]
      rfl

theorem quotedBreaks_lines {d : Char} {more : List Char} (visible : isVisible d = true)
    (j indent : Nat) {n : Nat} (fuel : j < n) {c : Cursor}
    (here : c.rest = List.replicate j '\n' ++ (blanks (indent + 1) ++ d :: more)) :
    ∃ next : Cursor, next.rest = d :: more ∧
      quotedBreaks n c = .ok (List.replicate j '\n', next) := by
  induction j generalizing n c with
  | zero =>
      cases n with
      | zero => cases fuel
      | succ n =>
          have goesOn : c.isSeparator = false := by
            apply Cursor.isSeparator_false <;> · rw [here]; simp [blanks_succ]
          have skipped := Cursor.skipWhile_blanks (p := isGap) rfl (indent + 1) here
            (isGap_visible visible)
          have noBreak := isBreak_peek visible
            (c := ⟨d :: more, c.index + (indent + 1), c.line, c.column + (indent + 1)⟩) rfl
          refine ⟨⟨d :: more, c.index + (indent + 1), c.line, c.column + (indent + 1)⟩, rfl, ?_⟩
          rw [quotedBreaks, goesOn, skipped]
          simp only [Bool.false_eq_true, if_false, noBreak]
          rfl
  | succ j ih =>
      cases n with
      | zero => cases fuel
      | succ n =>
          have goesOn : c.isSeparator = false := by
            apply Cursor.isSeparator_false <;> · rw [here]; simp [List.replicate_succ]
          have stays : c.skipWhile isGap = c := by
            unfold Cursor.skipWhile
            rw [here]
            rfl
          have isLineEnd : c.peek = '\n' := Cursor.peek_cons here
          obtain ⟨next, isNext, others⟩ := ih (Nat.lt_of_succ_lt_succ fuel) (c := c.step)
            (by rw [Cursor.rest_step, here]; rfl)
          refine ⟨next, isNext, ?_⟩
          rw [quotedBreaks, goesOn, stays]
          simp only [Bool.false_eq_true, if_false, isLineEnd, others]
          rfl

/-- What a line end stands for that so many empty lines follow. -/
def folded (j : Nat) : List Char := if j = 0 then [' '] else List.replicate j '\n'

theorem quotes_lines {d : Char} {more : List Char} (visible : isVisible d = true) (j indent : Nat)
    (reads : Quotes isDouble (d :: more) text tail) :
    Quotes isDouble ('\n' :: (List.replicate j '\n' ++ (blanks (indent + 1) ++ d :: more)))
      (folded j ++ text) tail := by
  have noQuote : '\n' ≠ quoteMark isDouble := by cases isDouble <;> decide
  rw [← List.append_assoc (List.replicate j '\n')]
  apply quotes_gap _ (folded j) rfl noQuote _ reads
  intro c here
  have noGap : c.run isGap = ([], c) := by
    unfold Cursor.run
    rw [here]
    rfl
  have more : c.rest.isEmpty = false := by
    rw [here]
    rfl
  have isLineEnd : c.peek = '\n' := Cursor.peek_cons here
  obtain ⟨next, isNext, breaks⟩ := quotedBreaks_lines visible j indent (n := c.rest.length + 1)
    (c := c.step) (by rw [here]; simp; omega)
    (by rw [Cursor.rest_step, here, List.append_assoc]; rfl)
  refine ⟨next, isNext, ?_⟩
  unfold quotedGap
  simp only [noGap, more, isLineEnd, breaks]
  cases j with
  | zero => rfl
  | succ j => rfl

theorem quotes_escape (before piece : List Char)
    (step : ∀ c : Cursor, c.rest = before ++ rest →
      ∃ next : Cursor, next.rest = rest ∧ readEscape c = .ok (⟨piece, false⟩, next))
    (reads : Quotes true rest text tail) :
    Quotes true ('\\' :: (before ++ rest)) (piece ++ text) tail := by
  apply quotes_piece before piece _ reads
  intro c here
  obtain ⟨next, isNext, code⟩ := step c.step (by rw [Cursor.rest_step, here]; rfl)
  refine ⟨next, isNext, ?_⟩
  intro n text last others
  have isChar : c.peek = '\\' := Cursor.peek_cons here
  rw [quotedFrom, isChar, code]
  simp only [bind, Except.bind, others]
  rfl

theorem quotes_soft {d : Char} {more : List Char} (visible : isVisible d = true) (indent : Nat)
    (reads : Quotes true (d :: more) text tail) :
    Quotes true ('\\' :: (newLine (indent + 1) ++ d :: more)) text tail := by
  apply quotes_escape (newLine (indent + 1)) [] _ reads
  intro c here
  have isLineEnd : c.peek = '\n' := Cursor.peek_cons here
  obtain ⟨next, isNext, breaks⟩ := quotedBreaks_lines visible 0 indent (n := c.rest.length + 1)
    (c := c.step) (Nat.succ_pos _) (by rw [Cursor.rest_step, here]; rfl)
  refine ⟨next, isNext, ?_⟩
  have noLetter : escape? '\n' = none := by decide
  have noCode : codeLength? '\n' = none := by decide
  unfold readEscape
  rw [isLineEnd, noLetter, noCode]
  simp only [breaks]
  rfl

theorem quotes_letter {letter ch : Char} (known : escape? letter = some ch)
    (reads : Quotes true rest text tail) :
    Quotes true ('\\' :: letter :: rest) (ch :: text) tail := by
  apply quotes_escape [letter] [ch] _ reads
  intro c here
  have isLetter : c.peek = letter := Cursor.peek_cons here
  refine ⟨c.step, by rw [Cursor.rest_step, here]; rfl, ?_⟩
  unfold readEscape
  rw [isLetter, known]

end HatReel.Yaml
