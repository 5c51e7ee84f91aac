import HatReel.Proofs.Yaml.Characters

/-! Steps of a cursor over printable text, over spaces and over a line end. -/

namespace HatReel.Yaml

theorem blanks_succ (n : Nat) : blanks (n + 1) = ' ' :: blanks n := rfl

theorem isPrintable_space : isPrintableAscii ' ' = true := rfl

theorem isPrintable_visible {c : Char} (visible : isVisible c = true) :
    isPrintableAscii c = true := by
  rw [isVisible_iff] at visible
  rw [isPrintableAscii_iff]
  omega

theorem isVisible_of_printable {c : Char} (printable : isPrintableAscii c = true)
    (noSpace : c ≠ ' ') : isVisible c = true := by
  rw [isPrintableAscii_iff] at printable
  rw [isVisible_iff]
  have other : c.toNat ≠ 32 := fun same => noSpace ((char_eq_iff c ' ').mpr same)
  omega

theorem isBreak_printable {c : Char} (printable : isPrintableAscii c = true) :
    isBreak c = false := by
  rw [isPrintableAscii_iff] at printable
  rw [Bool.eq_false_iff, Ne, isBreak_iff]
  omega

theorem split_run (ch : Char) (rest : List Char) :
    ∃ n others, rest = List.replicate n ch ++ others ∧ others.head? ≠ some ch := by
  induction rest with
  | nil => exact ⟨0, [], rfl, by simp⟩
  | cons c rest ih =>
      by_cases same : c = ch
      · obtain ⟨n, others, isSplit, other⟩ := ih
        exact ⟨n + 1, others, by rw [same, isSplit, List.replicate_succ, List.cons_append], other⟩
      · exact ⟨0, c :: rest, rfl, by simpa using same⟩

namespace Cursor

variable {c : Cursor} {ch : Char} {cs rest : List Char}

theorem peek_cons (here : c.rest = ch :: rest) : c.peek = ch := by
  rw [peek, here]
  rfl

theorem step_printable (here : c.rest = ch :: rest) (printable : isPrintableAscii ch = true) :
    c.step = ⟨rest, c.index + 1, c.line, c.column + 1⟩ := by
  have noMark : ch ≠ '\ufeff' := by
    rintro rfl
    cases printable
  unfold step
  rw [here]
  simp [isBreak_printable printable, noMark]

theorem step_newLine (here : c.rest = '\n' :: rest) :
    c.step = ⟨rest, c.index + 1, c.line + 1, 0⟩ := by
  unfold step
  rw [here]
  rfl

theorem skip_printable (here : c.rest = cs ++ rest)
    (printable : ∀ ch ∈ cs, isPrintableAscii ch = true) :
    c.skip cs.length = ⟨rest, c.index + cs.length, c.line, c.column + cs.length⟩ := by
  induction cs generalizing c with
  | nil =>
      cases c
      cases here
      rfl
  | cons ch cs ih =>
      have first := step_printable here (printable ch List.mem_cons_self)
      rw [List.length_cons, skip, first]
      rw [ih rfl fun d inside => printable d (List.mem_cons_of_mem ch inside)]
      simp only [Cursor.mk.injEq, true_and]
      omega

theorem takeWhile_blanks {p : Char → Bool} (space : p ' ' = true) (n : Nat)
    (ends : rest.head?.any p = false) : (blanks n ++ rest).takeWhile p = blanks n := by
  induction n with
  | zero =>
      cases rest with
      | nil => rfl
      | cons ch rest =>
          have noSpace : p ch = false := ends
          change (ch :: rest).takeWhile p = []
          rw [List.takeWhile_cons, noSpace]
          rfl
  | succ n ih =>
      rw [blanks_succ, List.cons_append, List.takeWhile_cons, if_pos space, ih]

theorem skip_blanks (n : Nat) (here : c.rest = blanks n ++ rest) :
    c.skip n = ⟨rest, c.index + n, c.line, c.column + n⟩ := by
  have skipped := skip_printable here fun ch inside => by
    rw [List.eq_of_mem_replicate inside]
    rfl
  have length : (blanks n).length = n := List.length_replicate
  rwa [length] at skipped

theorem run_blanks {p : Char → Bool} (space : p ' ' = true) (n : Nat)
    (here : c.rest = blanks n ++ rest) (ends : rest.head?.any p = false) :
    c.run p = (blanks n, ⟨rest, c.index + n, c.line, c.column + n⟩) := by
  have length : (blanks n).length = n := List.length_replicate
  unfold run
  rw [here]
  simp only [takeWhile_blanks space n ends, length, skip_blanks n here]

theorem skipWhile_blanks {p : Char → Bool} (space : p ' ' = true) (n : Nat)
    (here : c.rest = blanks n ++ rest) (ends : rest.head?.any p = false) :
    c.skipWhile p = ⟨rest, c.index + n, c.line, c.column + n⟩ := by
  have length : (blanks n).length = n := List.length_replicate
  unfold skipWhile
  rw [here, takeWhile_blanks space n ends, length, skip_blanks n here]

theorem isMarker_false (other : c.rest.head? ≠ some ch) : c.isMarker ch = false := by
  unfold isMarker
  cases here : c.rest with
  | nil => rfl
  | cons d rest =>
      have differs : (d :: rest).take 3 ≠ [ch, ch, ch] := by
        intro same
        apply other
        rw [here, List.head?_cons, (List.cons.inj same).1]
      rw [beq_eq_false_iff_ne.mpr differs]
      rfl

theorem isSeparator_false (noDash : c.rest.head? ≠ some '-') (noPoint : c.rest.head? ≠ some '.') :
    c.isSeparator = false := by
  unfold isSeparator
  rw [isMarker_false noDash, isMarker_false noPoint]
  rfl

end Cursor

end HatReel.Yaml
