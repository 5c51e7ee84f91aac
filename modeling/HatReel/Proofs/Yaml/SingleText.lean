import HatReel.Proofs.Yaml.PlainText
import HatReel.Proofs.Yaml.QuotedScalar

/-! Texts between single quotes read back.

The induction is on the text. Spaces that have been written but not read yet are carried along,
since reading takes a run of them at once; a run of line ends is one step as well. -/

namespace HatReel.Yaml

theorem singleBody_visible {ch : Char} (visible : isVisible ch = true) (layout : Layout)
    (column : Nat) (before : Option Char) (rest : List Char) :
    ∃ more, singleBody layout column before (ch :: rest) = ch :: more := by
  have noLineEnd : ch ≠ '\n' := ne_of_visible visible rfl
  have noSpace : ch ≠ ' ' := ne_of_visible visible rfl
  rw [singleBody]
  by_cases isQuote : ch = '\x27'
  · subst isQuote
    exact ⟨_, rfl⟩
  · rw [beq_eq_false_iff_ne.mpr isQuote, beq_eq_false_iff_ne.mpr noLineEnd,
      beq_eq_false_iff_ne.mpr noSpace]
    exact ⟨_, rfl⟩

theorem singleBody_space (indent column : Nat) (before : Option Char) (rest : List Char) :
    singleBody (some indent) column before (' ' :: rest) =
      if breaksAt column before rest then
        newLine indent ++ singleBody (some indent) indent (some ' ') rest
      else ' ' :: singleBody (some indent) (column + 1) (some ' ') rest := by
  cases breaks : breaksAt column before rest <;> · rw [singleBody, breaks]; rfl

theorem singleBody_first (layout : Layout) (column : Nat) {before : Option Char}
    (other : before ≠ some '\n') (rest : List Char) :
    singleBody layout column before ('\n' :: rest) =
      '\n' :: singleBody layout column (some '\n') ('\n' :: rest) := by
  rw [singleBody, singleBody, beq_eq_false_iff_ne.mpr other]
  rfl

theorem singleBody_lines (indent column : Nat) {rest : List Char} (ends : rest.head? ≠ some '\n')
    (j : Nat) : singleBody (some indent) column (some '\n') (List.replicate (j + 1) '\n' ++ rest) =
      List.replicate (j + 1) '\n' ++
        (blanks indent ++ singleBody (some indent) indent (some '\n') rest) := by
  induction j generalizing column with
  | zero =>
      change singleBody (some indent) column (some '\n') ('\n' :: rest) = _
      rw [singleBody, beq_eq_false_iff_ne.mpr ends]
      rfl
  | succ j ih =>
      change singleBody (some indent) column (some '\n')
        ('\n' :: (List.replicate (j + 1) '\n' ++ rest)) = _
      rw [singleBody]
      simp only [ih]
      rfl

/-- Printable characters and line ends, with no space beside a line end. -/
structure IsLined (cs : List Char) : Prop where
  common : ∀ c ∈ cs, isSpecial c = false
  noIndent : hasPair isBreak (· == ' ') cs = false
  noTrail : hasPair (· == ' ') isBreak cs = false

namespace IsLined

variable {c : Char} {cs rest : List Char}

theorem append (lined : IsLined (cs ++ rest)) : IsLined rest :=
  ⟨fun c inside => lined.common c (List.mem_append_right cs inside), hasPair_append lined.noIndent,
    hasPair_append lined.noTrail⟩

theorem tail (lined : IsLined (c :: rest)) : IsLined rest := @append [c] rest lined

theorem head (lined : IsLined (c :: rest)) (noSpace : c ≠ ' ') (noLineEnd : c ≠ '\n') :
    isVisible c = true := by
  have common := lined.common c List.mem_cons_self
  have other : c.toNat ≠ 10 := fun same => noLineEnd ((char_eq_iff c '\n').mpr same)
  rw [isSpecial_iff] at common
  apply isVisible_of_printable _ noSpace
  rw [isPrintableAscii_iff]
  omega

theorem ofLineEnd {d : Char} (lined : IsLined ('\n' :: d :: rest)) : d ≠ ' ' := by
  rintro rfl
  cases lined.noIndent

theorem ofSpace {d : Char} (lined : IsLined (' ' :: d :: rest)) : d ≠ '\n' := by
  rintro rfl
  cases lined.noTrail

end IsLined

theorem singleBody_head {cs : List Char} (lined : IsLined cs) (noSpace : cs.head? ≠ some ' ')
    (noLineEnd : cs.head? ≠ some '\n') (layout : Layout) (column : Nat) (before : Option Char)
    (tail : List Char) : ∃ d more, isVisible d = true ∧
      singleBody layout column before cs ++ '\x27' :: tail = d :: more := by
  cases cs with
  | nil => exact ⟨'\x27', tail, rfl, rfl⟩
  | cons d rest =>
      have visible := lined.head (by simpa using noSpace) (by simpa using noLineEnd)
      obtain ⟨more, body⟩ := singleBody_visible visible layout column before rest
      exact ⟨d, more ++ '\x27' :: tail, visible, by rw [body, List.cons_append]⟩

section Reading

variable {indent : Nat} {tail : List Char}

theorem quotes_singleLines {rest : List Char} (lined : IsLined ('\n' :: rest))
    {before : Option Char} (first : before ≠ some '\n') (column : Nat)
    (reads : ∀ others column before, IsLined others → others.length ≤ rest.length →
      others.head? ≠ some '\n' →
      Quotes false (singleBody (some (indent + 1)) column before others ++ '\x27' :: tail)
      others tail) :
    Quotes false (singleBody (some (indent + 1)) column before ('\n' :: rest) ++ '\x27' :: tail)
      ('\n' :: rest) tail := by
  obtain ⟨j, others, rfl, ends⟩ := split_run '\n' rest
  have noSpace : others.head? ≠ some ' ' := by
    have run : '\n' :: (List.replicate j '\n' ++ others) =
        List.replicate j '\n' ++ '\n' :: others := by
      rw [← List.cons_append, ← List.replicate_succ, List.replicate_succ', List.append_assoc]
      rfl
    rw [run] at lined
    cases others with
    | nil => simp
    | cons d others => simpa using lined.append.ofLineEnd
  have lined' : IsLined others := lined.tail.append
  obtain ⟨d, more, visible, body⟩ := singleBody_head lined' noSpace ends (some (indent + 1))
    (indent + 1) (some '\n') tail
  have others' := reads others (indent + 1) (some '\n') lined' (by simp) ends
  rw [body] at others'
  have lines := quotes_lines visible (j + 1) indent others'
  rw [← body] at lines
  rw [singleBody_first _ _ first, ← List.cons_append, ← List.replicate_succ,
    singleBody_lines _ _ ends]
  simpa [folded, List.append_assoc] using lines

theorem quotes_singleBreak {rest : List Char} (lined : IsLined (' ' :: rest))
    (inside : rest.head?.any (· != ' ') = true) (column : Nat) (before : Option Char)
    (reads : Quotes false (singleBody (some (indent + 1)) column before rest ++ '\x27' :: tail)
      rest tail) :
    Quotes false (newLine (indent + 1) ++
      (singleBody (some (indent + 1)) column before rest ++ '\x27' :: tail))
        (' ' :: rest) tail := by
  cases rest with
  | nil => cases inside
  | cons d rest =>
      have noSpace : d ≠ ' ' := by simpa using inside
      obtain ⟨d, more, visible, body⟩ := singleBody_head lined.tail (by simpa using noSpace)
        (by simpa using lined.ofSpace) (some (indent + 1)) column before tail
      rw [body] at reads
      rw [body]
      exact quotes_lines visible 0 indent reads

theorem quotes_singleChar {c : Char} {rest : List Char} (visible : isVisible c = true)
    (column : Nat) (before : Option Char) (k : Nat)
    (reads : ∀ column, Quotes false
      (singleBody (some (indent + 1)) column (some c) rest ++ '\x27' :: tail) rest tail) :
    Quotes false
      (blanks k ++ (singleBody (some (indent + 1)) column before (c :: rest) ++ '\x27' :: tail))
      (blanks k ++ c :: rest) tail := by
  have noLineEnd : c ≠ '\n' := ne_of_visible visible rfl
  have noSpace : c ≠ ' ' := ne_of_visible visible rfl
  by_cases isQuote : c = '\x27'
  · subst isQuote
    exact quotes_blanks visible k (quotes_quote (reads (column + 2)))
  · have body : singleBody (some (indent + 1)) column before (c :: rest) =
        c :: singleBody (some (indent + 1)) (column + 1) (some c) rest := by
      rw [singleBody, beq_eq_false_iff_ne.mpr isQuote, beq_eq_false_iff_ne.mpr noLineEnd,
        beq_eq_false_iff_ne.mpr noSpace]
      rfl
    rw [body]
    exact quotes_blanks visible k
      (quotes_char visible isQuote Bool.noConfusion (reads (column + 1)))

theorem quotes_singleBody (noQuote : tail.head? ≠ some '\x27') {cs : List Char} (lined : IsLined cs)
    (column : Nat) (before : Option Char) (k : Nat)
    (spaces : k ≠ 0 → before = some ' ' ∧ cs.head? ≠ some '\n')
    (first : cs.head? = some '\n' → before ≠ some '\n') :
    Quotes false (blanks k ++ (singleBody (some (indent + 1)) column before cs ++ '\x27' :: tail))
      (blanks k ++ cs) tail := by
  induction length : cs.length using Nat.strongRecOn generalizing cs column before k with
  | ind size ih =>
      cases cs with
      | nil => exact quotes_blanks rfl k (quotes_close (.inr noQuote))
      | cons c rest =>
          have shorter : rest.length < size := by
            rw [← length]
            exact Nat.lt_succ_self _
          by_cases isLineEnd : c = '\n'
          · subst isLineEnd
            have zero : k = 0 := by
              apply Decidable.byContradiction
              intro spaced
              exact (spaces spaced).2 rfl
            subst zero
            apply quotes_singleLines lined (first rfl)
            intro others column before lined smaller ends
            exact ih _ (Nat.lt_of_le_of_lt smaller shorter) lined column before 0
              (fun spaced => absurd rfl spaced) (fun isLineEnd => absurd isLineEnd ends) rfl
          · have next (column k : Nat)
                (spaces : k ≠ 0 → some c = some ' ' ∧ rest.head? ≠ some '\n') :=
              ih _ shorter lined.tail column (some c) k spaces
                (fun _ => by simpa using isLineEnd) rfl
            by_cases isSpace : c = ' '
            · subst isSpace
              have noTrail : rest.head? ≠ some '\n' := by
                cases rest with
                | nil => simp
                | cons d rest => simpa using lined.ofSpace
              rw [singleBody_space]
              cases breaks : breaksAt column before rest with
              | true =>
                  simp only [breaksAt, Bool.and_eq_true] at breaks
                  obtain ⟨⟨wide, lone⟩, inside⟩ := breaks
                  have zero : k = 0 := by
                    apply Decidable.byContradiction
                    intro spaced
                    rw [(spaces spaced).1] at lone
                    cases lone
                  subst zero
                  rw [if_pos rfl, List.append_assoc]
                  exact quotes_singleBreak lined inside (indent + 1) (some ' ')
                    (next (indent + 1) 0 fun spaced => absurd rfl spaced)
              | false =>
                  have others := next (column + 1) (k + 1) fun _ => ⟨rfl, noTrail⟩
                  rw [blanks, List.replicate_succ', List.append_assoc, List.append_assoc] at others
                  exact others
            · apply quotes_singleChar (lined.head isSpace isLineEnd) column before k
              exact fun column => next column 0 fun spaced => absurd rfl spaced

end Reading

end HatReel.Yaml
