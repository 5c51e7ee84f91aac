import HatReel.Proofs.Yaml.ScalarLine
import HatReel.Yaml.Tree

/-! Which characters documents are written in.

All that is printed is made of printable ASCII characters and line feeds, whatever the texts hold:
other characters are escaped. -/

namespace HatReel.Yaml

open HatReel.Text

def IsAscii (cs : List Char) : Prop := ∀ c ∈ cs, isSpecial c = false

namespace IsAscii

variable {cs ds : List Char}

theorem nil : IsAscii [] := fun _ inside => absurd inside List.not_mem_nil

theorem cons {c : Char} (first : isSpecial c = false) (rest : IsAscii cs) : IsAscii (c :: cs) := by
  intro d inside
  cases List.mem_cons.mp inside with
  | inl same => exact same ▸ first
  | inr inRest => exact rest d inRest

theorem append (one : IsAscii cs) (other : IsAscii ds) : IsAscii (cs ++ ds) := by
  intro c inside
  cases List.mem_append.mp inside with
  | inl left => exact one c left
  | inr right => exact other c right

theorem head {c : Char} (ascii : IsAscii (c :: cs)) : isSpecial c = false :=
  ascii c List.mem_cons_self

theorem tail {c : Char} (ascii : IsAscii (c :: cs)) : IsAscii cs :=
  fun d inside => ascii d (List.mem_cons_of_mem c inside)

theorem flatMap {α : Type} {f : α → List Char} {as : List α} (each : ∀ a ∈ as, IsAscii (f a)) :
    IsAscii (as.flatMap f) := by
  intro c inside
  obtain ⟨a, isMember, isChar⟩ := List.mem_flatMap.mp inside
  exact each a isMember c isChar

theorem allowed (ascii : IsAscii cs) : ∀ c ∈ cs, isAllowed c = true := by
  intro c inside
  have bounds := (isSpecial_iff c).mp (ascii c inside)
  unfold isAllowed
  simp only [Bool.or_eq_true, Bool.and_eq_true, beq_iff_eq, decide_eq_true_eq]
  omega

end IsAscii

theorem isAscii_visible {cs : List Char} (visible : ∀ c ∈ cs, isVisible c = true) : IsAscii cs :=
  fun c inside => isSpecial_visible (visible c inside)

theorem isAscii_word {cs : List Char} (word : IsWord cs) : IsAscii cs :=
  isAscii_visible fun c inside => isVisible_word (word c inside)

theorem isAscii_newLine (k : Nat) : IsAscii (newLine k) := by
  refine .cons rfl fun c inside => ?_
  rw [List.eq_of_mem_replicate inside]
  rfl

theorem isAscii_plainBody {cs : List Char} (ascii : IsAscii cs) (layout : Layout) (column : Nat)
    (before : Option Char) : IsAscii (plainBody layout column before cs) := by
  induction cs generalizing column before with
  | nil => exact .nil
  | cons c cs ih =>
      have rest := ih ascii.tail
      unfold plainBody
      split
      · split
        · exact (isAscii_newLine _).append (rest _ _)
        · exact (rest _ _).cons ascii.head
      · exact (rest _ _).cons ascii.head

theorem isAscii_singleBody {cs : List Char} (ascii : IsAscii cs) (layout : Layout) (column : Nat)
    (before : Option Char) : IsAscii (singleBody layout column before cs) := by
  induction cs generalizing column before with
  | nil => exact .nil
  | cons c cs ih =>
      have rest := ih ascii.tail
      have lineEnd : IsAscii ['\n'] := .cons rfl .nil
      unfold singleBody
      simp only
      split
      · exact ((rest _ _).cons rfl).cons rfl
      · split
        · refine (IsAscii.append ?_ ?_).append (rest _ _)
          · split
            · exact .nil
            · exact lineEnd
          · split
            · exact lineEnd
            · exact isAscii_newLine _
        · split
          · exact (isAscii_newLine _).append (rest _ _)
          · exact (rest _ _).cons ascii.head

theorem isAscii_capitalDigits (n width : Nat) : IsAscii (capitalDigits n width) := by
  have each : ∀ d : Fin 16, isSpecial (hexDigit d).toUpper = false := by decide
  induction width generalizing n with
  | zero => exact .nil
  | succ width ih =>
      rw [capitalDigits_succ]
      exact (ih _).append (.cons (each ⟨n % 16, Nat.mod_lt n (by decide)⟩) .nil)

theorem isAscii_escaped (c : Char) : IsAscii (escaped c) := by
  have letters : escapeLetters.all (fun e => !isSpecial e.2) = true := by decide
  unfold escaped
  simp only
  split
  · next letter found =>
    obtain ⟨before, behind, isSplit, _⟩ := List.lookup_eq_some_iff.mp found
    have known := List.all_eq_true.mp letters (c, letter) (by simp [isSplit])
    exact .cons rfl (.cons (by simpa using known) .nil)
  · split
    · exact .cons rfl (.cons rfl (isAscii_capitalDigits _ _))
    · split
      · exact .cons rfl (.cons rfl (isAscii_capitalDigits _ _))
      · exact .cons rfl (.cons rfl (isAscii_capitalDigits _ _))

theorem isAscii_softBreak (indent : Nat) (next : Option Char) :
    IsAscii (softBreak indent next).1 := by
  unfold softBreak
  split
  · exact ((isAscii_newLine indent).append (.cons rfl .nil)).cons rfl
  · exact (isAscii_newLine indent).cons rfl

theorem isAscii_doubleBody (cs : List Char) (layout : Layout) (column : Nat)
    (isFirst afterEscape : Bool) : IsAscii (doubleBody layout column isFirst afterEscape cs) := by
  induction cs generalizing column isFirst afterEscape with
  | nil => exact .nil
  | cons c cs ih =>
      unfold doubleBody
      simp only
      split
      · split
        · exact ((isAscii_escaped c).append (isAscii_softBreak _ _)).append (ih _ _ _)
        · exact (isAscii_escaped c).append (ih _ _ _)
      · next plain =>
        have isPlain : isSpecial c = false := by
          simp only [needsEscape, Bool.or_eq_true, not_or, Bool.not_eq_true,
            Bool.not_eq_false'] at plain
          simp [isSpecial, plain.2]
        split
        · exact (isAscii_softBreak _ _).append ((ih _ _ _).cons isPlain)
        · exact (ih _ _ _).cons isPlain

theorem isAscii_text (layout : Layout) (column : Nat) (cs : List Char) :
    IsAscii (printText layout column cs) := by
  unfold printText
  cases style : Style.of cs with
  | plain =>
      have plain := (style_plain style).2.1
      simp only [allowsPlain, Bool.not_eq_true', Bool.or_eq_false_iff, List.any_eq_false,
        Bool.not_eq_true] at plain
      exact isAscii_plainBody plain.1.1.1.2 layout column none
  | single =>
      have ascii : IsAscii cs := (style_single style).common
      exact ((isAscii_singleBody ascii layout _ none).cons rfl).append (.cons rfl .nil)
  | double =>
      exact ((isAscii_doubleBody cs layout _ true false).cons rfl).append (.cons rfl .nil)

end HatReel.Yaml
