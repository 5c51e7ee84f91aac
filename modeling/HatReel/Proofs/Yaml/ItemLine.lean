import HatReel.Proofs.Yaml.ScalarLine

/-! Items on lines of their own, and the ends of a text.

A word behind a dash may become a key until the next line is reached; reading it reaches that line,
so nothing comes of it. -/

namespace HatReel.Yaml.Lexer

theorem readToken_dash {s : Lexer} {rest : List Char} (here : s.cursor.rest = '-' :: ' ' :: rest) :
    s.readToken = s.readEntry := by
  have isDash : s.cursor.peek = '-' := Cursor.peek_cons here
  have goesOn : s.cursor.rest.isEmpty = false := by
    rw [here]
    rfl
  have isGap : isGapOrEnd (s.cursor.ahead 1) = true := by
    unfold Cursor.ahead
    rw [here]
    rfl
  have noMarker (d : Char) : s.cursor.isMarker d = false := by
    unfold Cursor.isMarker
    rw [here]
    have differs : ('-' :: ' ' :: rest).take 3 ≠ [d, d, d] := by
      intro same
      have first : '-' = d := (List.cons.inj same).1
      have second : ' ' = d := (List.cons.inj (List.cons.inj same).2).1
      rw [← first] at second
      cases second
    rw [beq_eq_false_iff_ne.mpr differs]
    rfl
  simp [readToken, isDash, goesOn, isGap, noMarker]

/-- A dash in the column of the block leaves the block as it is. -/
theorem readEntry_flat {s : Lexer} {i : Nat} {indents : List Nat} (isBlock : s.depth = 0)
    (isAllowed : s.keyAllowed = true) (isIndents : s.indents = i :: indents)
    (isColumn : s.cursor.column = i) (settled : s.candidates = []) :
    s.readEntry = .ok (s.pushWide .blockEntry 1) := by
  have noFlow : s.inFlow = false := by
    unfold Lexer.inFlow
    rw [isBlock]
    rfl
  have stays : s.openBlock .blockSequenceStart = s := by
    have noDeeper : s.isDeeper s.cursor.column = false := by
      unfold isDeeper
      rw [isIndents, isColumn]
      simp
    unfold openBlock
    rw [noDeeper]
    rfl
  have givesUp : s.giveUpCandidate = .ok s := by
    unfold giveUpCandidate candidate? dropCandidate
    rw [settled]
    cases s
    cases settled
    rfl
  unfold readEntry
  rw [noFlow, isAllowed, stays]
  simp only [bind, Except.bind, pure, Except.pure, givesUp]
  cases s
  cases isAllowed
  rfl

section Item

variable {s : Lexer} {k k' : Nat} {indents : List Nat} {w rest : List Char}

theorem lexes_dash (atLine : AtLine s (k :: indents) k ('-' :: ' ' :: rest))
    (below : ∀ i ∈ indents, i ≤ k) (inner : k ≠ 0) :
    ∃ last, Lexes s [.blockEntry] last ∧ InLine last (k :: indents) (' ' :: rest) ∧
      last.keyAllowed = true := by
  have atDash : Resumes k ('-' :: ' ' :: rest) := by
    intro c isFirst
    cases isFirst
    exact ⟨rfl, by decide, fun isMargin => absurd isMargin inner⟩
  obtain ⟨c, here, isColumn, advanced⟩ := @AtLine.advance s [] (k :: indents) k _ atLine atDash
    (fun i inside => absurd inside List.not_mem_nil) (by simpa using below)
  have entry := readEntry_flat
    (s := { s with
      cursor := c, keyAllowed := true, indents := k :: indents
      waiting := ([] : List Nat).map fun _ => ⟨.blockEnd, c.mark, c.mark⟩ })
    atLine.isBlock rfl rfl isColumn atLine.noCandidates
  rw [readToken_dash here, entry] at advanced
  have first := Runs.advance (fresh_of_none atLine.noCandidates) atLine.isOpen
    (.inl atLine.noWaiting) advanced
  have all := first.trans (Runs.handOutAll atLine.noCandidates)
  have next : c.step = ⟨' ' :: rest, c.index + 1, c.line, c.column + 1⟩ :=
    Cursor.step_printable here rfl
  have bound := atLine.length_le
  refine ⟨_, ⟨_, ?_, all⟩, ⟨⟨atLine.isOpen, atLine.isBlock, rfl, atLine.noCandidates, rfl⟩, ?_, ?_⟩,
    rfl⟩
  · have width : c.step.rest.length = rest.length + 1 := by
      rw [next]
      rfl
    simp only [List.length_cons] at bound
    simp only [pushWide, push, Cursor.skip, width, List.map_nil, List.nil_append,
      List.length_nil, List.length_cons, atLine.isIndents]
    omega
  · exact congrArg Cursor.rest next
  · intro i inside
    have isStep : c.step.column = k + 1 := by rw [next, isColumn]
    change i < c.step.column
    rw [isStep]
    cases List.mem_cons.mp inside with
    | inl isTop => exact isTop ▸ Nat.lt_succ_self k
    | inr inBelow => exact Nat.lt_succ_of_le (below i inBelow)

/-- A word behind a dash. It is no key, since the line ends behind it. -/
theorem lexes_word (inLine : InLine s (k :: indents) (' ' :: (w ++ (newLine k' ++ rest))))
    (isAllowed : s.keyAllowed = true) (back : k' ≤ k) (resumes : Resumes k' rest)
    (more : w ≠ []) (word : IsWord w) (plain : allowsPlain w = true) :
    ∃ last, Lexes s [.scalar ⟨w, true, false⟩] last ∧ AtLine last (k :: indents) k' rest := by
  obtain ⟨c, others, rfl⟩ := List.exists_cons_of_ne_nil more
  obtain ⟨visible, noLead, apart⟩ := beginsText_of_allowsPlain plain
  have noComment : c ≠ '#' := ne_of_lead noLead (by decide +kernel)
  have atWord : Resumes 1 (c :: others ++ (newLine k' ++ rest)) := by
    intro d isFirst
    cases isFirst
    exact ⟨visible, noComment, fun isMargin => absurd isMargin (by decide)⟩
  have begins : BeginsText c (others ++ (newLine k' ++ rest)) := by
    refine ⟨visible, noLead, fun isMark => ?_⟩
    obtain ⟨d, behind, rfl, visible⟩ := apart isMark
    exact ⟨d, behind ++ (newLine k' ++ rest), rfl, visible⟩
  have right := inLine.right k List.mem_cons_self
  have advanced :=
    @InLine.advance s (k :: indents) 1 1 (c :: others ++ (newLine k' ++ rest)) inLine atWord
  have scalar := readToken_plain (s := { s with cursor := ⟨c :: others ++ (newLine k' ++ rest),
      s.cursor.index + 1, s.cursor.line, s.cursor.column + 1⟩ })
    begins rfl inLine.isBlock fun isMargin => absurd isMargin (Nat.succ_ne_zero _)
  have saved := saveCandidate_eq (s := { s with cursor := ⟨c :: others ++ (newLine k' ++ rest),
      s.cursor.index + 1, s.cursor.line, s.cursor.column + 1⟩ }) isAllowed inLine.noCandidates
  have least : (s.indents.head?.map (· + 1)).getD 0 = k + 1 := by
    rw [inLine.isIndents]
    rfl
  have noColon : (c :: others).getLast? ≠ some ':' := by
    simpa using word.getLast?_ne (c := ':') rfl
  obtain ⟨last, isPlain, isRest, isColumn, later⟩ := readPlain_written
    (.word more ⟨fun d inside => isVisible_word (word d inside), noColon⟩) (Nat.le_refl (k + 1))
    (Nat.lt_succ_of_le back) resumes (by simpa using noComment) (Nat.le_succ_of_le right)
    (c := ⟨c :: others ++ (newLine k' ++ rest), s.cursor.index + 1, s.cursor.line,
      s.cursor.column + 1⟩) rfl
  rw [← least] at isPlain
  rw [scalar, readPlainScalar_eq saved inLine.isBlock isPlain] at advanced
  have first := Runs.advance (fresh_of_none inLine.noCandidates) inLine.isOpen
    (.inl inLine.noWaiting) advanced
  -- The candidate is stale by now, since its line is behind.
  have all := first.trans (Runs.handOutStale inLine.isOpen
    (by simp only [pushRead, push, inLine.noWaiting, List.nil_append]; rfl) rfl
    (by simp [isStale, pushRead, push, mark, Cursor.mark, Nat.ne_of_lt later])
    (by
      simp only [inLine.isIndents, List.head?_cons, Bool.and_eq_false_iff, beq_eq_false_iff_ne]
      refine .inr fun same => ?_
      cases same
      omega))
  refine ⟨_, ⟨_, ?_, all⟩, ?_⟩
  · rw [inLine.here]
    simp only [pushRead, push, List.length_cons, List.length_append, isRest]
    omega
  · exact ⟨⟨inLine.isOpen, inLine.isBlock, rfl, rfl, inLine.isIndents⟩,
      .inr ⟨isRest, isColumn, rfl⟩⟩

end Item

section End

variable {s : Lexer}

theorem readToken_end (isBlock : s.depth = 0) (here : s.cursor.rest = [])
    (settled : s.candidates = []) :
    s.readToken = .ok { s with
      indents := [], keyAllowed := false, isClosed := true
      waiting := s.waiting ++ s.indents.map (fun _ => ⟨.blockEnd, s.mark, s.mark⟩) ++
        [⟨.streamEnd, s.mark, s.mark⟩] } := by
  have closes := closeBlocks_split (p := fun _ => true) s.indents [] isBlock
    (List.append_nil _).symm (fun _ _ => rfl) (fun i inside => absurd inside List.not_mem_nil)
  have empty : s.cursor.rest.isEmpty = true := by
    rw [here]
    rfl
  unfold readToken readEnd
  rw [empty, closes]
  simp only [if_true, bind, Except.bind, giveUpCandidate, candidate?, dropCandidate, settled]
  rfl

theorem runs_end {closed left : List Nat} (atLine : AtLine s (closed ++ left) 0 [])
    (above : ∀ i ∈ closed, 0 < i) (below : ∀ i ∈ left, i ≤ 0) :
    ∃ n last, n = (closed ++ left).length + 2 ∧
      Runs n s ((closed ++ left).map (fun _ => .blockEnd) ++ [.streamEnd]) last ∧
      ∀ m, last.run m = ([], none) := by
  have atEnd : Resumes 0 [] := fun c isFirst => by cases isFirst
  obtain ⟨c, here, isColumn, advanced⟩ := atLine.advance atEnd above below
  have ended := readToken_end
    (s := { s with
      cursor := c, keyAllowed := true, indents := left
      waiting := closed.map fun _ => ⟨.blockEnd, c.mark, c.mark⟩ })
    atLine.isBlock here atLine.noCandidates
  rw [ended] at advanced
  have first := Runs.advance (fresh_of_none atLine.noCandidates) atLine.isOpen
    (.inl atLine.noWaiting) advanced
  have all := first.trans (Runs.handOutAll atLine.noCandidates)
  refine ⟨_, _, ?_, all.of_eq ?_, fun m => run_closed rfl rfl m⟩
  rotate_left
  · simp only [List.nil_append, List.map_append, List.map_map, Function.comp_def, List.map_cons,
      List.map_nil]
  simp only [List.length_append, List.length_map, List.length_singleton]
  omega

end End

end HatReel.Yaml.Lexer
