import HatReel.Proofs.Yaml.Places
import HatReel.Yaml.Plain

/-! Texts without quotes read back.

A text that may stand without quotes is a phrase: words with spaces between them, none of which ends
in a colon, and none of which but the first begins with a number sign. Written in a block, some of
its lone spaces have become line ends, and reading takes them for spaces again. -/

namespace HatReel.Yaml

/-- Visible characters, the last of them no colon. -/
def IsSolid (w : List Char) : Prop := (∀ c ∈ w, isVisible c = true) ∧ w.getLast? ≠ some ':'

def endsWord (rest : List Char) : Bool := isGapOrEnd (rest.headD '\x00')

theorem plainRun_solid {w rest : List Char} (solid : IsSolid w) (ends : endsWord rest = true) :
    plainRun false (w ++ rest) = w := by
  obtain ⟨visible, noColon⟩ := solid
  induction w with
  | nil =>
      cases rest with
      | nil => rfl
      | cons d rest =>
          have isGap : isGapOrEnd d = true := ends
          rw [List.nil_append, plainRun, isGap]
          rfl
  | cons c w ih =>
      have noGap := isGapOrEnd_visible (visible c List.mem_cons_self)
      have rest' : plainRun false (w ++ rest) = w := by
        cases w with
        | nil => exact ih (fun d inside => absurd inside List.not_mem_nil) (by simp)
        | cons d w =>
            apply ih
            · exact fun e inside => visible e (List.mem_cons_of_mem c inside)
            · rwa [List.getLast?_cons_cons] at noColon
      have goesOn : (c == ':' && endsAtColon false ((w ++ rest).headD '\x00')) = false := by
        cases w with
        | nil =>
            have other : c ≠ ':' := by
              rintro rfl
              exact noColon rfl
            rw [beq_eq_false_iff_ne.mpr other]
            rfl
        | cons d w =>
            have noGap' :=
              isGapOrEnd_visible (visible d (List.mem_cons_of_mem c List.mem_cons_self))
            simp [endsAtColon, noGap']
      rw [List.cons_append, plainRun, noGap, goesOn, rest']
      rfl

theorem plainRun_key {w rest : List Char} (visible : ∀ c ∈ w, isVisible c = true)
    (noColon : ':' ∉ w) (ends : endsWord rest = true) : plainRun false (w ++ ':' :: rest) = w := by
  induction w with
  | nil =>
      have isEnd : endsAtColon false (rest.headD '\x00') = true := by
        unfold endsAtColon
        rw [show isGapOrEnd (rest.headD '\x00') = true from ends]
        rfl
      rw [List.nil_append, plainRun, isEnd]
      rfl
  | cons c w ih =>
      have noGap := isGapOrEnd_visible (visible c List.mem_cons_self)
      have rest' := ih (fun d inside => visible d (List.mem_cons_of_mem c inside))
        fun inside => noColon (List.mem_cons_of_mem c inside)
      have other : c ≠ ':' := by
        rintro rfl
        exact noColon List.mem_cons_self
      rw [List.cons_append, plainRun, noGap, beq_eq_false_iff_ne.mpr other, rest']
      rfl

theorem IsSolid.first {w : List Char} (solid : IsSolid w) (more : w ≠ []) :
    ∃ c v, w = c :: v ∧ isVisible c = true := by
  cases w with
  | nil => exact absurd rfl more
  | cons c v => exact ⟨c, v, rfl, solid.1 c List.mem_cons_self⟩

theorem hasPair_append {p q : Char → Bool} {cs ds : List Char}
    (noPair : hasPair p q (cs ++ ds) = false) :
    hasPair p q ds = false := by
  induction cs with
  | nil => exact noPair
  | cons c cs ih =>
      apply ih
      cases rest : cs ++ ds with
      | nil => rfl
      | cons d rest' =>
          rw [List.cons_append, rest, hasPair, Bool.or_eq_false_iff] at noPair
          exact noPair.2

theorem hasPair_between {p q : Char → Bool} {cs ds : List Char} {c d : Char} (left : p c = true)
    (right : q d = true) : hasPair p q (cs ++ c :: d :: ds) = true := by
  induction cs with
  | nil =>
      rw [List.nil_append, hasPair, left, right]
      rfl
  | cons e cs ih =>
      cases rest : cs ++ c :: d :: ds with
      | nil => simp at rest
      | cons f rest' =>
          rw [List.cons_append, rest, hasPair, ← rest, ih, Bool.or_true]

/-- Printable text between visible ends, in which no colon ends a word and no number sign begins
one. -/
structure IsFlowing (cs : List Char) : Prop where
  printable : ∀ c ∈ cs, isPrintableAscii c = true
  first : ∃ c, cs.head? = some c ∧ isVisible c = true
  last : cs.getLast? ≠ some ' '
  inner : hasInnerIndicator cs = false

theorem isFlowing_of_allowsPlain {cs : List Char} (more : cs ≠ []) (plain : allowsPlain cs = true) :
    IsFlowing cs := by
  simp only [allowsPlain, Bool.not_eq_true', Bool.or_eq_false_iff] at plain
  obtain ⟨⟨⟨⟨⟨firstEdge, lastEdge⟩, special⟩, breaks⟩, begins⟩, inner⟩ := plain
  have printable : ∀ c ∈ cs, isPrintableAscii c = true := by
    intro c inside
    have noSpecial : isSpecial c = false := by
      simpa using List.any_eq_false.mp special c inside
    have noBreak : isBreak c = false := by
      simpa using List.any_eq_false.mp breaks c inside
    rw [isSpecial_iff] at noSpecial
    rw [Bool.eq_false_iff, Ne, isBreak_iff] at noBreak
    rw [isPrintableAscii_iff]
    omega
  refine ⟨printable, ?_, ?_, inner⟩
  · cases cs with
    | nil => exact absurd rfl more
    | cons c cs =>
        refine ⟨c, rfl, isVisible_of_printable (printable c List.mem_cons_self) ?_⟩
        rintro rfl
        cases firstEdge
  · intro isSpace
    rw [isSpace] at lastEdge
    cases lastEdge

/-- Behind its first word a flowing text has spaces, and then flows on. -/
theorem flowing_tail {w rest : List Char} (flowing : IsFlowing (w ++ ' ' :: rest)) :
    w.getLast? ≠ some ':' ∧
      ∃ n cs, ' ' :: rest = blanks (n + 1) ++ cs ∧ IsFlowing cs ∧ cs.head? ≠ some '#' := by
  obtain ⟨n, cs, isSplit, other⟩ := split_run ' ' rest
  change rest = blanks n ++ cs at isSplit
  have whole : w ++ ' ' :: rest = (w ++ blanks (n + 1)) ++ cs := by
    rw [isSplit, blanks_succ, List.append_assoc, List.cons_append]
  have inner := flowing.inner
  simp only [hasInnerIndicator, Bool.or_eq_false_iff, beq_eq_false_iff_ne] at inner
  obtain ⟨⟨colons, lastColon⟩, comments⟩ := inner
  have noColon : w.getLast? ≠ some ':' := by
    intro isColon
    obtain ⟨front, rfl⟩ := List.getLast?_eq_some_iff.mp isColon
    have pair : hasPair (· == ':') isGapOrEnd (front ++ ':' :: ' ' :: rest) = true :=
      hasPair_between rfl rfl
    rw [List.append_assoc, List.singleton_append, pair] at colons
    cases colons
  have spaced : w ++ blanks (n + 1) = (w ++ blanks n) ++ [' '] := by
    rw [blanks, List.replicate_succ', ← List.append_assoc]
    rfl
  rw [whole] at colons comments lastColon
  cases cs with
  | nil =>
      have isSpace : (w ++ ' ' :: rest).getLast? = some ' ' := by
        rw [whole, spaced, List.append_nil]
        exact List.getLast?_concat
      exact absurd isSpace flowing.last
  | cons d cs =>
      have isLast : (w ++ ' ' :: rest).getLast? = (d :: cs).getLast? := by
        rw [whole, List.getLast?_append, List.getLast?_cons]
        rfl
      have printable : ∀ c ∈ d :: cs, isPrintableAscii c = true := by
        intro c inside
        apply flowing.printable
        rw [whole]
        exact List.mem_append_right _ inside
      have noSpace : d ≠ ' ' := by simpa using other
      have noComment : d ≠ '#' := by
        rintro rfl
        have pair : hasPair isGapOrEnd (· == '#') ((w ++ blanks n) ++ ' ' :: '#' :: cs) = true :=
          hasPair_between rfl rfl
        rw [spaced, List.append_assoc, List.singleton_append, pair] at comments
        cases comments
      refine ⟨noColon, n, d :: cs, by rw [isSplit, blanks_succ, List.cons_append], ?_, by simpa⟩
      constructor
      · exact printable
      · exact ⟨d, rfl, isVisible_of_printable (printable d List.mem_cons_self) noSpace⟩
      · rw [← isLast]
        exact flowing.last
      · have noColon : (d :: cs).getLast? ≠ some ':' := by
          rwa [← isLast, whole]
        simp only [hasInnerIndicator, Bool.or_eq_false_iff, beq_eq_false_iff_ne]
        exact ⟨⟨hasPair_append colons, noColon⟩, hasPair_append comments⟩

theorem flowing_parts {cs : List Char} (flowing : IsFlowing cs) :
    IsSolid cs ∨ ∃ w n others, cs = w ++ (blanks (n + 1) ++ others) ∧ w ≠ [] ∧ IsSolid w ∧
      IsFlowing others ∧ others.head? ≠ some '#' := by
  have isSplit := (List.takeWhile_append_dropWhile (p := isVisible) (l := cs)).symm
  have isWord : ∀ c ∈ cs.takeWhile isVisible, isVisible c = true :=
    List.all_eq_true.mp List.all_takeWhile
  cases tail : cs.dropWhile isVisible with
  | nil =>
      rw [tail, List.append_nil] at isSplit
      rw [← isSplit] at isWord
      have inner := flowing.inner
      simp only [hasInnerIndicator, Bool.or_eq_false_iff, beq_eq_false_iff_ne] at inner
      exact .inl ⟨isWord, inner.1.2⟩
  | cons c rest =>
      have isSpace : c = ' ' := by
        apply Decidable.byContradiction
        intro noSpace
        have printable : isPrintableAscii c = true := by
          apply flowing.printable
          rw [isSplit, tail]
          simp
        have invisible := List.head?_dropWhile_not isVisible cs
        rw [tail] at invisible
        simp [isVisible_of_printable printable noSpace] at invisible
      rw [tail, isSpace] at isSplit
      have more : cs.takeWhile isVisible ≠ [] := by
        intro empty
        obtain ⟨first, isFirst, visible⟩ := flowing.first
        rw [isSplit, empty] at isFirst
        cases isFirst
        cases visible
      have tailed := flowing
      rw [isSplit] at tailed
      obtain ⟨noColon, n, others, isBlanks, flows, noComment⟩ := flowing_tail tailed
      rw [isBlanks] at isSplit
      exact .inr ⟨_, n, others, isSplit, more, ⟨isWord, noColon⟩, flows, noComment⟩

/-- How a text may be written: word by word, with its spaces as they are or, if there is but one
between two words, with a new line in its place. -/
inductive Written (indent : Nat) : List Char → List Char → Prop where
  | word {w : List Char} (more : w ≠ []) (solid : IsSolid w) : Written indent w w
  | spaced {w : List Char} (more : w ≠ []) (solid : IsSolid w) (n : Nat) {cs out : List Char}
      (noComment : cs.head? ≠ some '#') (rest : Written indent cs out) :
      Written indent (w ++ (blanks (n + 1) ++ cs)) (w ++ (blanks (n + 1) ++ out))
  | broken {w : List Char} (more : w ≠ []) (solid : IsSolid w) {cs out : List Char}
      (noComment : cs.head? ≠ some '#') (rest : Written indent cs out) :
      Written indent (w ++ ' ' :: cs) (w ++ (newLine indent ++ out))

theorem plainBody_visible {w : List Char} (more : w ≠ []) (visible : ∀ c ∈ w, isVisible c = true)
    (layout : Layout) (column : Nat) (before : Option Char) (rest : List Char) :
    ∃ column' b, b ≠ ' ' ∧
      plainBody layout column before (w ++ rest) = w ++ plainBody layout column' (some b) rest := by
  induction w generalizing column before with
  | nil => exact absurd rfl more
  | cons c w ih =>
      have noSpace : c ≠ ' ' := ne_of_visible (visible c List.mem_cons_self) rfl
      have here : plainBody layout column before (c :: (w ++ rest)) =
          c :: plainBody layout (column + 1) (some c) (w ++ rest) := by
        cases layout with
        | none => rfl
        | some indent =>
            rw [plainBody, beq_eq_false_iff_ne.mpr noSpace]
            rfl
      rw [List.cons_append, here]
      cases w with
      | nil => exact ⟨column + 1, c, noSpace, rfl⟩
      | cons d w =>
          obtain ⟨column', b, other, body⟩ := ih (List.cons_ne_nil d w)
            (fun e inside => visible e (List.mem_cons_of_mem c inside)) (column + 1) (some c)
          exact ⟨column', b, other, by rw [body]; rfl⟩

theorem plainBody_blanks (indent column n : Nat) (rest : List Char) :
    plainBody (some indent) column (some ' ') (blanks n ++ rest) =
      blanks n ++ plainBody (some indent) (column + n) (some ' ') rest := by
  induction n generalizing column with
  | zero => rfl
  | succ n ih =>
      have stays : breaksAt column (some ' ') (blanks n ++ rest) = false := by
        simp [breaksAt]
      rw [blanks_succ, List.cons_append, plainBody, stays, Bool.and_false]
      simp only [Bool.false_eq_true, if_false]
      rw [ih, Nat.add_right_comm]
      rfl

theorem written_of_flowing {cs : List Char} (flowing : IsFlowing cs) (indent column : Nat)
    (before : Option Char) : Written indent cs (plainBody (some indent) column before cs) := by
  induction length : cs.length using Nat.strongRecOn generalizing cs column before with
  | ind size ih =>
      cases flowing_parts flowing with
      | inl solid =>
          have more : cs ≠ [] := by
            rintro rfl
            obtain ⟨first, isFirst, _⟩ := flowing.first
            cases isFirst
          obtain ⟨column', b, noSpace, body⟩ :=
            plainBody_visible more solid.1 (some indent) column before []
          rw [List.append_nil, plainBody, List.append_nil] at body
          rw [body]
          exact .word more solid
      | inr parts =>
          obtain ⟨w, n, others, rfl, more, solid, flows, noComment⟩ := parts
          have shorter : others.length < size := by
            simp only [List.length_append, blanks, List.length_replicate] at length
            omega
          have rests (column : Nat) (before : Option Char) := ih _ shorter flows column before rfl
          obtain ⟨column', b, noSpace, body⟩ := plainBody_visible more solid.1 (some indent) column
            before (blanks (n + 1) ++ others)
          rw [body, blanks_succ, List.cons_append, plainBody]
          cases breaks : breaksAt column' (some b) (blanks n ++ others) with
          | true =>
              -- Only a lone space is broken at.
              have lone : n = 0 := by
                cases n with
                | zero => rfl
                | succ n => simp [breaksAt, blanks_succ] at breaks
              subst lone
              exact .broken more solid noComment (rests indent (some ' '))
          | false =>
              simp only [Bool.and_false, Bool.false_eq_true, if_false, plainBody_blanks]
              exact .spaced more solid n noComment (rests _ (some ' '))

theorem Written.head {indent : Nat} {cs out : List Char} (written : Written indent cs out) :
    ∃ c, isVisible c = true ∧ cs.head? = some c ∧ out.head? = some c := by
  cases written with
  | word more solid =>
      obtain ⟨c, v, rfl, visible⟩ := solid.first more
      exact ⟨c, visible, rfl, rfl⟩
  | spaced more solid n noComment rest =>
      obtain ⟨c, v, rfl, visible⟩ := solid.first more
      exact ⟨c, visible, rfl, rfl⟩
  | broken more solid noComment rest =>
      obtain ⟨c, v, rfl, visible⟩ := solid.first more
      exact ⟨c, visible, rfl, rfl⟩

/-- Two visible characters at the beginning are left together. -/
theorem Written.second {indent : Nat} {cs out : List Char} (written : Written indent cs out)
    {c d : Char} {rest : List Char} (isText : cs = c :: d :: rest) (visible : isVisible d = true) :
    ∃ more, out = c :: d :: more := by
  have noSpace : ' ' ≠ d := fun isSpace => ne_of_visible visible rfl isSpace.symm
  cases written with
  | word more solid => exact ⟨rest, isText⟩
  | spaced more solid n noComment others =>
      obtain ⟨e, v, rfl, _⟩ := solid.first more
      cases v with
      | nil => exact absurd (List.cons.inj (List.cons.inj isText).2).1 noSpace
      | cons f v =>
          cases isText
          exact ⟨_, rfl⟩
  | broken more solid noComment others =>
      obtain ⟨e, v, rfl, _⟩ := solid.first more
      cases v with
      | nil => exact absurd (List.cons.inj (List.cons.inj isText).2).1 noSpace
      | cons f v =>
          cases isText
          exact ⟨_, rfl⟩

end HatReel.Yaml
