import HatReel.Proofs.Yaml.PlainText

/-! Plain scalars as they are read.

Reading goes from word to word. A gap between words is as many spaces as there are, or one space for
a line end; the gap behind the last word leads to a line that is not indented enough. -/

namespace HatReel.Yaml

/-- What may stand in a column of a new line: nothing more, or a visible character that begins no
comment and, at the margin, no mark between documents. -/
def Resumes (column : Nat) (rest : List Char) : Prop :=
  ∀ c ∈ rest.head?, isVisible c = true ∧ c ≠ '#' ∧ (column = 0 → c ≠ '-' ∧ c ≠ '.')

namespace Resumes

variable {column : Nat} {rest : List Char}

theorem noSpace (resumes : Resumes column rest) : rest.head?.any (· == ' ') = false := by
  rw [Option.any_eq_false]
  intro c isFirst
  exact beq_eq_false_iff_ne.mpr (ne_of_visible (resumes c isFirst).1 rfl)

theorem noGap (resumes : Resumes column rest) : rest.head?.any isGap = false := by
  rw [Option.any_eq_false]
  intro c isFirst
  simp [isGap_visible (resumes c isFirst).1]

theorem peek (resumes : Resumes column rest) {c : Cursor} (here : c.rest = rest) :
    isBreak c.peek = false ∧ c.peek ≠ ' ' ∧ c.peek ≠ '#' ∧ c.peek ≠ '\ufeff' := by
  unfold Cursor.peek
  rw [here]
  cases rest with
  | nil => decide
  | cons d rest =>
      obtain ⟨visible, noComment, _⟩ := resumes d rfl
      exact ⟨isBreak_visible visible, ne_of_visible visible rfl, noComment,
        ne_of_visible visible rfl⟩

theorem isSeparator (resumes : Resumes column rest) {c : Cursor}
    (here : c.rest = blanks column ++ rest) : c.isSeparator = false := by
  cases column with
  | zero =>
      apply Cursor.isSeparator_false
      · intro isDash
        rw [here] at isDash
        exact ((resumes '-' isDash).2.2 rfl).1 rfl
      · intro isPoint
        rw [here] at isPoint
        exact ((resumes '.' isPoint).2.2 rfl).2 rfl
  | succ column =>
      apply Cursor.isSeparator_false <;> · rw [here]; simp [blanks_succ]

end Resumes

theorem plainBreaks_blanks {column : Nat} {rest : List Char} (resumes : Resumes column rest)
    (k : Nat) {n : Nat} (fuel : k < n) {c : Cursor} (here : c.rest = blanks k ++ rest) :
    plainBreaks n c = (some [], ⟨rest, c.index + k, c.line, c.column + k⟩) := by
  induction k generalizing n c with
  | zero =>
      cases n with
      | zero => cases fuel
      | succ n =>
          obtain ⟨noBreak, noSpace, _, _⟩ := resumes.peek here
          rw [plainBreaks, beq_eq_false_iff_ne.mpr noSpace, noBreak]
          cases c
          cases here
          rfl
  | succ k ih =>
      cases n with
      | zero => cases fuel
      | succ n =>
          rw [blanks_succ, List.cons_append] at here
          have next := Cursor.step_printable here isPrintable_space
          have isSpace : c.peek = ' ' := Cursor.peek_cons here
          rw [plainBreaks, isSpace, next]
          simp only [beq_self_eq_true, if_true]
          rw [ih (Nat.lt_of_succ_lt_succ fuel) rfl]
          simp only [Prod.mk.injEq, Cursor.mk.injEq, true_and]
          omega

theorem plainGap_newLine {column : Nat} {rest : List Char} (resumes : Resumes column rest)
    {c : Cursor} (here : c.rest = newLine column ++ rest) :
    plainGap c = ⟨[' '], true, ⟨rest, c.index + 1 + column, c.line + 1, column⟩⟩ := by
  have noBlanks : c.run (· == ' ') = ([], c) := by
    unfold Cursor.run
    rw [here]
    rfl
  have isLineEnd : c.peek = '\n' := Cursor.peek_cons here
  have next := @Cursor.step_newLine c (blanks column ++ rest) here
  have goesOn : c.step.isSeparator = false := resumes.isSeparator (by rw [next])
  have breaks := plainBreaks_blanks resumes column (n := c.step.rest.length + 1) (c := c.step)
    (by rw [next, List.length_append, blanks, List.length_replicate]; omega) (by rw [next])
  unfold plainGap
  simp only [noBlanks, isLineEnd, goesOn, breaks]
  rw [next]
  simp [isBreak, foldedBreak, breakText]

theorem plainGap_blanks {n : Nat} {rest : List Char} {d : Char} (isFirst : rest.head? = some d)
    (visible : isVisible d = true) {c : Cursor} (here : c.rest = blanks n ++ rest) :
    plainGap c = ⟨blanks n, false, ⟨rest, c.index + n, c.line, c.column + n⟩⟩ := by
  have ends : rest.head?.any (· == ' ') = false := by
    rw [isFirst, Option.any_some]
    exact beq_eq_false_iff_ne.mpr (ne_of_visible visible rfl)
  have run := Cursor.run_blanks (p := (· == ' ')) rfl n here ends
  unfold plainGap
  simp only [run]
  have noBreak : isBreak (Cursor.mk rest (c.index + n) c.line (c.column + n)).peek = false := by
    unfold Cursor.peek
    cases rest with
    | nil => cases isFirst
    | cons e rest =>
        cases isFirst
        exact isBreak_visible visible
  rw [noBreak]
  rfl

section Word

variable {least n : Nat} {w rest : List Char} {c : Cursor} (more : w ≠ []) (solid : IsSolid w)
  (noComment : w.head? ≠ some '#') (here : c.rest = w ++ rest) (ends : endsWord rest = true)

include more solid noComment here ends

theorem plainFrom_word : (c.peek == '#') = false ∧ plainRun false c.rest = w ∧
    (plainRun false c.rest).isEmpty = false ∧
    c.skip w.length = ⟨rest, c.index + w.length, c.line, c.column + w.length⟩ := by
  have run : plainRun false c.rest = w := by
    rw [here]
    exact plainRun_solid solid ends
  have skipped := Cursor.skip_printable here fun d inside => isPrintable_visible (solid.1 d inside)
  refine ⟨?_, run, ?_, skipped⟩
  · rw [beq_eq_false_iff_ne]
    intro isComment
    apply noComment
    cases w with
    | nil => exact absurd rfl more
    | cons d w => rw [← isComment, Cursor.peek_cons here, List.head?_cons]
  · rw [run]
    cases w with
    | nil => exact absurd rfl more
    | cons d w => rfl

theorem plainFrom_stops (gap : List Char) (crossed : Bool) {next : PlainGap}
    (isGap : plainGap ⟨rest, c.index + w.length, c.line, c.column + w.length⟩ = next)
    (back : next.next.column < least) :
    plainFrom false least (n + 1) gap crossed c = (gap ++ w, next.crosses, next.next) := by
  obtain ⟨noComment, run, filled, skipped⟩ := plainFrom_word more solid noComment here ends
  rw [plainFrom, noComment, filled, run, skipped, isGap]
  simp [back]

theorem plainFrom_goesOn (gap : List Char) (crossed : Bool) {next : PlainGap}
    (isGap : plainGap ⟨rest, c.index + w.length, c.line, c.column + w.length⟩ = next)
    (someGap : next.text ≠ []) (noComment' : next.next.peek ≠ '#')
    (behind : least ≤ next.next.column) {text : List Char} {crosses : Bool} {last : Cursor}
    (others : plainFrom false least n next.text next.crosses next.next = (text, crosses, last)) :
    plainFrom false least (n + 1) gap crossed c = (gap ++ w ++ text, crosses, last) := by
  obtain ⟨noComment, run, filled, skipped⟩ := plainFrom_word more solid noComment here ends
  rw [plainFrom, noComment, filled, run, skipped, isGap]
  simp only [others]
  simp [someGap, noComment', Nat.not_lt.mpr behind]

end Word

/-- Reading what was written gives the text and stops on the line behind it. -/
theorem plainFrom_written {indent least column : Nat} {cs out rest : List Char}
    (written : Written indent cs out) (deep : least ≤ indent) (back : column < least)
    (resumes : Resumes column rest) {n : Nat} {c : Cursor} (fuel : out.length < n)
    (noComment : cs.head? ≠ some '#') (behind : least ≤ c.column)
    (here : c.rest = out ++ (newLine column ++ rest)) (gap : List Char) (crossed : Bool) :
    ∃ last, plainFrom false least n gap crossed c = (gap ++ cs, true, last) ∧ last.rest = rest ∧
      last.column = column ∧ c.line < last.line := by
  have headOfWord {w cs : List Char} (more : w ≠ []) (noComment : (w ++ cs).head? ≠ some '#') :
      w.head? ≠ some '#' := by
    cases w with
    | nil => exact absurd rfl more
    | cons d w => exact noComment
  induction written generalizing n c gap crossed with
  | @word w more solid =>
      cases n with
      | zero => cases fuel
      | succ n =>
          have isGap := plainGap_newLine resumes
            (c := ⟨newLine column ++ rest, c.index + w.length, c.line, c.column + w.length⟩) rfl
          have reads :=
            plainFrom_stops (n := n) more solid noComment here rfl gap crossed isGap back
          exact ⟨_, reads, rfl, rfl, Nat.lt_succ_self _⟩
  | @spaced w more solid k cs out noComment' written ih =>
      cases n with
      | zero => cases fuel
      | succ n =>
          rw [List.append_assoc, List.append_assoc] at here
          obtain ⟨d, visible, isFirst, isFirst'⟩ := written.head
          have headOfOut : (out ++ (newLine column ++ rest)).head? = some d := by
            rw [List.head?_append, isFirst', Option.some_or]
          have isGap := plainGap_blanks (n := k + 1) headOfOut visible
            (c := ⟨_, c.index + w.length, c.line, c.column + w.length⟩) rfl
          have shorter : out.length < n := by
            simp only [List.length_append, blanks, List.length_replicate] at fuel
            omega
          obtain ⟨last, others, isRest, isColumn, later⟩ := ih shorter noComment'
            (c := ⟨out ++ (newLine column ++ rest), c.index + w.length + (k + 1), c.line,
              c.column + w.length + (k + 1)⟩) (by simp only; omega) rfl (blanks (k + 1)) false
          have goesOn : d ≠ '#' := by
            rintro rfl
            exact noComment' isFirst
          have isPeek : (Cursor.mk (out ++ (newLine column ++ rest)) (c.index + w.length + (k + 1))
              c.line (c.column + w.length + (k + 1))).peek ≠ '#' := by
            simpa [Cursor.peek, List.headD_eq_head?_getD, headOfOut] using goesOn
          have reads := plainFrom_goesOn more solid (headOfWord more noComment) here rfl gap crossed
            isGap (by simp [blanks]) isPeek (by simp only; omega) others
          rw [List.append_assoc] at reads
          exact ⟨last, reads, isRest, isColumn, later⟩
  | @broken w more solid cs out noComment' written ih =>
      cases n with
      | zero => cases fuel
      | succ n =>
          rw [List.append_assoc, List.append_assoc] at here
          obtain ⟨d, visible, isFirst, isFirst'⟩ := written.head
          have headOfOut : (out ++ (newLine column ++ rest)).head? = some d := by
            rw [List.head?_append, isFirst', Option.some_or]
          have goesOn : d ≠ '#' := by
            rintro rfl
            exact noComment' isFirst
          have resumes' : Resumes indent (out ++ (newLine column ++ rest)) := by
            intro e isHead
            rw [headOfOut] at isHead
            cases isHead
            exact ⟨visible, goesOn, fun isMargin => by omega⟩
          have isGap := plainGap_newLine resumes'
            (c := ⟨_, c.index + w.length, c.line, c.column + w.length⟩) rfl
          have shorter : out.length < n := by
            simp only [List.length_append, newLine, List.length_cons] at fuel
            omega
          obtain ⟨last, others, isRest, isColumn, later⟩ := ih shorter noComment'
            (c := ⟨out ++ (newLine column ++ rest), c.index + w.length + 1 + indent, c.line + 1,
              indent⟩) deep rfl [' '] true
          have isPeek := (resumes'.peek (c := ⟨out ++ (newLine column ++ rest),
            c.index + w.length + 1 + indent, c.line + 1, indent⟩) rfl).2.2.1
          have reads := plainFrom_goesOn more solid (headOfWord more noComment) here rfl gap crossed
            isGap (by simp) isPeek deep others
          rw [List.append_assoc] at reads
          exact ⟨last, reads, isRest, isColumn, Nat.lt_trans (Nat.lt_succ_self _) later⟩

theorem readPlain_written {indent least column : Nat} {cs out rest : List Char}
    (written : Written indent cs out) (deep : least ≤ indent) (back : column < least)
    (resumes : Resumes column rest) {c : Cursor} (noComment : cs.head? ≠ some '#')
    (behind : least ≤ c.column) (here : c.rest = out ++ (newLine column ++ rest)) :
    ∃ last, readPlain false least c = (⟨cs, true, false⟩, true, last) ∧ last.rest = rest ∧
      last.column = column ∧ c.line < last.line := by
  have fuel : out.length < c.rest.length + 1 := by
    rw [here, List.length_append]
    omega
  obtain ⟨last, reads, placed⟩ :=
    plainFrom_written written deep back resumes fuel noComment behind here [] false
  refine ⟨last, ?_, placed⟩
  unfold readPlain
  rw [reads]
  rfl

end HatReel.Yaml
