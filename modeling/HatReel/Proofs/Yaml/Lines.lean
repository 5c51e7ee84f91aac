import HatReel.Proofs.Yaml.Placing

/-! Tokens line by line.

Between lines nothing waits and nothing is a candidate for a key, and the open blocks are known by
their columns. A line with a key closes the blocks that are further right and opens one, unless the
key stands in the column of the block that is left. -/

namespace HatReel.Yaml.Lexer

structure IsIdle (s : Lexer) (indents : List Nat) : Prop where
  isOpen : s.isClosed = false
  isBlock : s.depth = 0
  noWaiting : s.waiting = []
  noCandidates : s.candidates = []
  isIndents : s.indents = indents

/-- The next line begins with `rest`, in column `k`. -/
structure AtLine (s : Lexer) (indents : List Nat) (k : Nat) (rest : List Char) : Prop
    extends IsIdle s indents where
  place : s.cursor.rest = newLine k ++ rest ∨
    (s.cursor.rest = rest ∧ s.cursor.column = k ∧ s.keyAllowed = true)

/-- The line goes on with `rest`, right of all blocks. -/
structure InLine (s : Lexer) (indents : List Nat) (rest : List Char) : Prop
    extends IsIdle s indents where
  here : s.cursor.rest = rest
  right : ∀ i ∈ indents, i < s.cursor.column

theorem IsIdle.inFlow {s : Lexer} {indents : List Nat} (idle : IsIdle s indents) :
    s.inFlow = false := by
  unfold Lexer.inFlow
  rw [idle.isBlock]
  rfl

theorem closeBlocks_split {s : Lexer} {p : Nat → Bool} (closed left : List Nat)
    (isBlock : s.depth = 0) (isIndents : s.indents = closed ++ left)
    (all : ∀ i ∈ closed, p i = true) (within : ∀ i ∈ left, p i = false) :
    s.closeBlocks p = { s with
      indents := left
      waiting := s.waiting ++ closed.map fun _ => ⟨.blockEnd, s.mark, s.mark⟩ } := by
  have noFlow : s.inFlow = false := by
    unfold Lexer.inFlow
    rw [isBlock]
    rfl
  have stops : left.takeWhile p = [] := by
    cases left with
    | nil => rfl
    | cons i left =>
        rw [List.takeWhile_cons, within i List.mem_cons_self]
        rfl
  have taken : s.indents.takeWhile p = closed := by
    rw [isIndents, List.takeWhile_append_of_pos all, stops, List.append_nil]
  unfold closeBlocks
  rw [noFlow, taken, isIndents]
  simp only [List.drop_left]
  rfl

theorem AtLine.skipGaps {s : Lexer} {indents : List Nat} {k : Nat} {rest : List Char}
    (atLine : AtLine s indents k rest) (resumes : Resumes k rest) :
    ∃ c : Cursor, c.rest = rest ∧ c.column = k ∧
      s.skipOrderMark.skipGaps (s.cursor.rest.length + 1) =
        { s with cursor := c, keyAllowed := true } := by
  cases atLine.place with
  | inl behind =>
      have noMark : s.cursor.peek ≠ '\ufeff' := by
        rw [Cursor.peek_cons behind]
        decide
      have long : s.cursor.rest.length + 1 = (blanks k ++ rest).length + 2 := by
        rw [behind]
        rfl
      rw [skipOrderMark_eq noMark, long, skipGaps_newLine resumes _ atLine.isBlock behind]
      exact ⟨_, rfl, rfl, rfl⟩
  | inr here =>
      obtain ⟨isRest, isColumn, isAllowed⟩ := here
      have noMark := (resumes.peek isRest).2.2.2
      have skipped := skipGaps_blanks resumes 0 s.cursor.rest.length isRest
      rw [skipOrderMark_eq noMark, skipped]
      refine ⟨⟨rest, s.cursor.index + 0, s.cursor.line, s.cursor.column + 0⟩, rfl, isColumn, ?_⟩
      rw [← isAllowed]

/-- The next token of a line, with the blocks closed that are further right. -/
theorem AtLine.advance {s : Lexer} {closed left : List Nat} {k : Nat} {rest : List Char}
    (atLine : AtLine s (closed ++ left) k rest) (resumes : Resumes k rest)
    (above : ∀ i ∈ closed, k < i) (below : ∀ i ∈ left, i ≤ k) :
    ∃ c : Cursor, c.rest = rest ∧ c.column = k ∧ s.advance =
      { s with
        cursor := c, keyAllowed := true, indents := left
        waiting := closed.map fun _ => ⟨.blockEnd, c.mark, c.mark⟩ }.readToken := by
  obtain ⟨c, isRest, isColumn, skipped⟩ := atLine.skipGaps resumes
  refine ⟨c, isRest, isColumn, ?_⟩
  have fresh : Fresh { s with cursor := c, keyAllowed := true } := fresh_of_none atLine.noCandidates
  have closes := closeBlocks_split (p := fun i => decide (c.column < i))
    (s := { s with cursor := c, keyAllowed := true }) closed left atLine.isBlock atLine.isIndents
    (fun i inside => decide_eq_true (isColumn ▸ above i inside))
    (fun i inside => decide_eq_false (Nat.not_lt.mpr (isColumn ▸ below i inside)))
  unfold Lexer.advance
  rw [skipped, fresh.dropStale]
  simp only [bind, Except.bind, closes]
  rw [atLine.noWaiting]
  rfl

theorem AtLine.length_le {s : Lexer} {indents : List Nat} {k : Nat} {rest : List Char}
    (atLine : AtLine s indents k rest) : rest.length ≤ s.cursor.rest.length := by
  cases atLine.place with
  | inl behind =>
      rw [behind, List.length_append]
      omega
  | inr here => exact Nat.le_of_eq (congrArg List.length here.1.symm)

theorem InLine.advance {s : Lexer} {indents : List Nat} {k n : Nat} {rest : List Char}
    (inLine : InLine s indents (blanks n ++ rest)) (resumes : Resumes k rest) :
    s.advance = { s with
      cursor := ⟨rest, s.cursor.index + n, s.cursor.line, s.cursor.column + n⟩ }.readToken := by
  have noMark : s.cursor.peek ≠ '\ufeff' := by
    cases n with
    | zero => exact (resumes.peek inLine.here).2.2.2
    | succ n =>
        have here : s.cursor.rest = ' ' :: (blanks n ++ rest) := inLine.here
        rw [Cursor.peek_cons here]
        decide
  have skipped := skipGaps_blanks resumes n s.cursor.rest.length inLine.here
  have fresh : Fresh { s with
      cursor := ⟨rest, s.cursor.index + n, s.cursor.line, s.cursor.column + n⟩ } :=
    fresh_of_none inLine.noCandidates
  have closes := closeBlocks_split (p := fun i => decide (s.cursor.column + n < i))
    (s := { s with
      cursor := ⟨rest, s.cursor.index + n, s.cursor.line, s.cursor.column + n⟩ })
    [] indents inLine.isBlock inLine.isIndents (fun i inside => absurd inside List.not_mem_nil)
    (fun i inside => decide_eq_false fun less => by
      have bound := inLine.right i inside
      omega)
  unfold Lexer.advance
  rw [skipOrderMark_eq noMark, skipped, fresh.dropStale]
  simp only [bind, Except.bind, closes, List.map_nil, List.append_nil]
  rw [← inLine.isIndents]

end HatReel.Yaml.Lexer
