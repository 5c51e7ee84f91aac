import HatReel.Camera.Grabber
import HatReel.Proofs.Decimal.Integer
import Mathlib.Data.List.Induction
import Mathlib.Data.Nat.Digits.Defs

/-! What the name of a source is read as.

A name of digits, with blanks around them, is meant to be the number of a camera, and every other
name stays as it is. The number is read if the digits are decimal and not too many and if the blanks
are white space. The other names of digits are refused: the guard in front of the reader lets more
characters pass than the reader knows. -/

namespace HatReel.Camera

open HatReel.Decimal HatReel.Document HatReel.Rig HatReel.Text

def denoted (digits : List Char) : Nat := Nat.ofDigits 10 (digits.filterMap decimalValue?).reverse

/-- The name is made of some digits and of blanks around them. -/
structure Spells (s : String) (digits : List Char) : Prop where
  around : ∃ lead trail, s.toList = lead ++ digits ++ trail ∧ (∀ c ∈ lead, isBlank c = true) ∧
    ∀ c ∈ trail, isBlank c = true
  filled : digits ≠ []
  all : ∀ c ∈ digits, isAnyDigit c = true

/-- The digits are decimal and not too many, and the blanks are white space. -/
structure Readable (s : String) (digits : List Char) : Prop extends Spells s digits where
  decimal : ∀ c ∈ digits, isDecimal c = true
  short : digits.length ≤ digitLimit
  spaced : ∀ c ∈ s.toList, isBlank c = true → isWhiteSpace c = true

def refusal (s : String) : IntegerFault :=
  if digitLimit < (leadingDigits s.toList).length then .tooLong (leadingDigits s.toList).length
  else .malformed 10 s.toList

theorem ofDigits_denoted (digits : List Char) :
    ofDigits 10 (digits.filterMap decimalValue?) = denoted digits := by
  unfold denoted ofDigits
  generalize digits.filterMap decimalValue? = ds
  induction ds using List.reverseRecOn with
  | nil => rfl
  | append_singleton ds d ih =>
      rw [List.foldl_append, ih, List.reverse_concat, Nat.ofDigits_cons, List.foldl_cons,
        List.foldl_nil, Nat.mul_comm, Nat.add_comm]

section

variable {s : String} {digits : List Char}

namespace Spells

theorem trimmed (spells : Spells s digits) : trimBlanks s.toList = digits := by
  obtain ⟨⟨lead, trail, isText, before, after⟩, filled, all⟩ := spells
  rw [isText]
  exact trimWith_around before (fun c inside => isBlank_digit (all c inside)) filled after

theorem plain (spells : Spells s digits) : ∀ c ∈ s.toList, isPlain c = true := by
  obtain ⟨⟨lead, trail, isText, before, after⟩, -, all⟩ := spells
  intro c inside
  rw [isText, List.mem_append, List.mem_append] at inside
  unfold isPlain
  rcases inside with (first | middle) | last
  · rw [before c first, Bool.true_or]
  · rw [all c middle, Bool.or_true]
  · rw [after c last, Bool.true_or]

end Spells

/-- The guard tells the names that spell digits. -/
theorem isNumber_iff : isNumber s = true ↔ ∃ digits, Spells s digits := by
  constructor
  · intro number
    obtain ⟨lead, trail, isText, before, after⟩ := trimWith_split isBlank s.toList
    simp only [isNumber, Bool.and_eq_true, Bool.not_eq_eq_eq_not, Bool.not_true,
      List.isEmpty_eq_false_iff, List.all_eq_true] at number
    exact ⟨trimBlanks s.toList, ⟨lead, trail, isText, before, after⟩, number.1, number.2⟩
  · rintro ⟨digits, spells⟩
    simp only [isNumber, spells.trimmed, Bool.and_eq_true, Bool.not_eq_eq_eq_not, Bool.not_true,
      List.isEmpty_eq_false_iff, List.all_eq_true]
    exact ⟨spells.filled, spells.all⟩

theorem Readable.parts (readable : Readable s digits) :
    leadingDigits s.toList = digits ∧
      ((s.toList.dropWhile isWhiteSpace).dropWhile isDecimal).all isWhiteSpace = true := by
  obtain ⟨⟨⟨lead, trail, isText, before, after⟩, filled, all⟩, decimal, -, spaced⟩ := readable
  have white {c : Char} (inside : c ∈ lead ∨ c ∈ trail) : isWhiteSpace c = true := by
    rcases inside with first | last
    · exact spaced c (isText ▸ List.mem_append_left _ (List.mem_append_left _ first))
        (before c first)
    · exact spaced c (isText ▸ List.mem_append_right _ last) (after c last)
  have begun : s.toList.dropWhile isWhiteSpace = digits ++ trail := by
    rw [isText, List.append_assoc, List.dropWhile_append_of_pos fun c inside => white (.inl inside),
      List.dropWhile_append, dropWhile_none fun c inside => isWhiteSpace_digit (all c inside),
      List.isEmpty_eq_false_iff.mpr filled, if_neg Bool.false_ne_true]
  have noDigit : ∀ c ∈ trail, isDecimal c = false := by
    intro c inside
    rw [Bool.eq_false_iff]
    intro digit
    have isBlank := after c inside
    rw [isBlank_decimal digit] at isBlank
    cases isBlank
  constructor
  · rw [leadingDigits, begun, List.takeWhile_append_of_pos decimal, takeWhile_none noDigit,
      List.append_nil]
  · rw [begun, List.dropWhile_append_of_pos decimal, dropWhile_none noDigit, List.all_eq_true]
    exact fun c inside => white (.inr inside)

theorem Spells.readable (spells : Spells s digits) (filled : leadingDigits s.toList ≠ [])
    (short : (leadingDigits s.toList).length ≤ digitLimit)
    (ends : ((s.toList.dropWhile isWhiteSpace).dropWhile isDecimal).all isWhiteSpace = true) :
    Readable s digits := by
  have isText : s.toList = s.toList.takeWhile isWhiteSpace ++ leadingDigits s.toList ++
      (s.toList.dropWhile isWhiteSpace).dropWhile isDecimal := by
    rw [leadingDigits, List.append_assoc, List.takeWhile_append_dropWhile,
      List.takeWhile_append_dropWhile]
  have decimal : ∀ c ∈ leadingDigits s.toList, isDecimal c = true := fun c => List.mem_takeWhile_imp
  have first : ∀ c ∈ s.toList.takeWhile isWhiteSpace, isWhiteSpace c = true :=
    fun c => List.mem_takeWhile_imp
  have last := List.all_eq_true.mp ends
  have same : leadingDigits s.toList = digits := by
    have trimmed := trimWith_around (fun c inside => isBlank_of_isWhiteSpace (first c inside))
      (fun c inside => isBlank_decimal (decimal c inside)) filled
      (fun c inside => isBlank_of_isWhiteSpace (last c inside))
    rw [← isText] at trimmed
    rw [← spells.trimmed]
    exact trimmed.symm
  refine ⟨spells, same ▸ decimal, same ▸ short, fun c inside blank => ?_⟩
  rw [isText, List.mem_append, List.mem_append] at inside
  rcases inside with (before | middle) | after
  · exact first c before
  · rw [isBlank_decimal (decimal c middle)] at blank
    cases blank
  · exact last c after

/-- A name of digits becomes a number if it is readable, and is refused otherwise. -/
theorem ofName_spells (spells : Spells s digits) :
    (Readable s digits → Source.ofName s = .ok (.index (denoted digits))) ∧
      (¬ Readable s digits → Source.ofName s = .error (refusal s)) := by
  have number : isNumber s = true := isNumber_iff.mpr ⟨digits, spells⟩
  rw [Source.ofName, if_pos number, readInteger_plain spells.plain]
  constructor
  · intro readable
    obtain ⟨same, ends⟩ := readable.parts
    rw [same, if_neg spells.filled, if_neg (not_lt.mpr readable.short), if_pos ends,
      ofDigits_denoted]
    rfl
  · intro unreadable
    unfold refusal
    by_cases long : digitLimit < (leadingDigits s.toList).length
    · have filled : leadingDigits s.toList ≠ [] := List.length_pos_iff.mp (Nat.zero_lt_of_lt long)
      rw [if_neg filled, if_pos long, if_pos long]
      rfl
    · by_cases empty : leadingDigits s.toList = []
      · rw [if_pos empty, if_neg long]
        rfl
      · have ends := fun ends => unreadable (spells.readable empty (not_lt.mp long) ends)
        rw [if_neg empty, if_neg long, if_neg ends, if_neg long]
        rfl

theorem ofName_other (other : ∀ digits, ¬ Spells s digits) : Source.ofName s = .ok (.name s) := by
  have noNumber : isNumber s ≠ true := fun number =>
    (isNumber_iff.mp number).elim fun digits spells => other digits spells
  rw [Source.ofName, if_neg noNumber]

theorem normalize_again {source read : Source} (normal : source.normalize = .ok read) :
    read.normalize = .ok read := by
  cases source with
  | index n =>
      cases normal
      rfl
  | name s =>
      change Source.ofName s = .ok read at normal
      by_cases spells : ∃ digits, Spells s digits
      · obtain ⟨digits, spells⟩ := spells
        by_cases readable : Readable s digits
        · rw [(ofName_spells spells).1 readable] at normal
          cases normal
          rfl
        · rw [(ofName_spells spells).2 readable] at normal
          cases normal
      · have same := ofName_other fun digits spelled => spells ⟨digits, spelled⟩
        rw [same] at normal
        cases normal
        exact same

theorem readSource_value (source : Source) :
    readSource source.value = source.normalize.map Source.value := by
  cases source <;> rfl

theorem readSource_again {v w : Value} (reads : readSource v = .ok w) : readSource w = .ok w := by
  cases v with
  | text s =>
      change (Source.ofName s).map Source.value = .ok w at reads
      cases normal : Source.ofName s with
      | error fault =>
          rw [normal] at reads
          cases reads
      | ok read =>
          rw [normal] at reads
          cases reads
          have again : read.normalize = .ok read := @normalize_again (.name s) read normal
          rw [readSource_value, again]
          rfl
  | _ =>
      cases reads
      rfl

theorem normalize_ok_iff (source : Source) : (∃ read, source.normalize = .ok read) ↔
    ∀ s digits, source = .name s → Spells s digits → Readable s digits := by
  constructor
  · rintro ⟨read, normal⟩ s digits rfl spells
    by_contra unreadable
    change Source.ofName s = .ok read at normal
    rw [(ofName_spells spells).2 unreadable] at normal
    cases normal
  · intro readable
    cases source with
    | index n => exact ⟨_, rfl⟩
    | name s =>
        by_cases spells : ∃ digits, Spells s digits
        · obtain ⟨digits, spells⟩ := spells
          exact ⟨_, (ofName_spells spells).1 (readable s digits rfl spells)⟩
        · exact ⟨_, ofName_other fun digits spelled => spells ⟨digits, spelled⟩⟩

end

/-- How a source is read. What is no text stays as it is, and so does a text that does not spell
digits. A text that spells digits becomes the number that they denote if they are decimal, at most
as many as are evaluated, and surrounded by white space only; otherwise it is refused. What was read
stays as it is when it is read again. A grabber can be made, and holds what the source is read as,
unless the source is refused. -/
theorem readSource_digits (v : Value) :
    ((∀ s, v ≠ .text s) → readSource v = .ok v) ∧
    (∀ s, v = .text s → (∀ digits, ¬ Spells s digits) → readSource v = .ok v) ∧
    (∀ s digits, v = .text s → Readable s digits → readSource v = .ok (.int (denoted digits))) ∧
    (∀ s digits, v = .text s → Spells s digits → ¬ Readable s digits →
      readSource v = .error (refusal s)) ∧
    (∀ w, readSource v = .ok w → readSource w = .ok w) ∧
    ∀ source width height gamma, source.value = v →
      ((∃ g, Grabber.ofSource source width height gamma = .ok g ∧
        readSource v = .ok g.source.value ∧ g.isStarted = false) ↔
      ∀ s digits, v = .text s → Spells s digits → Readable s digits) := by
  refine ⟨fun noText => ?_, ?_, ?_, ?_, fun w reads => readSource_again reads, ?_⟩
  · cases v with
    | text s => exact absurd rfl (noText s)
    | _ => rfl
  · rintro s rfl other
    rw [readSource, ofName_other other]
    rfl
  · rintro s digits rfl readable
    rw [readSource, (ofName_spells readable.toSpells).1 readable]
    rfl
  · rintro s digits rfl spells unreadable
    rw [readSource, (ofName_spells spells).2 unreadable]
    rfl
  · rintro source width height gamma rfl
    have named : (∀ s digits, source.value = .text s → Spells s digits → Readable s digits) ↔
        ∀ s digits, source = .name s → Spells s digits → Readable s digits := by
      cases source <;> simp [Source.value]
    rw [named, ← normalize_ok_iff]
    constructor
    · rintro ⟨g, made, -⟩
      unfold Grabber.ofSource at made
      cases normal : source.normalize with
      | error fault =>
          rw [normal] at made
          cases made
      | ok read => exact ⟨read, rfl⟩
    · rintro ⟨read, normal⟩
      refine ⟨⟨read, width, height, gamma, none⟩, ?_, ?_, rfl⟩
      · rw [Grabber.ofSource, normal]
        rfl
      · rw [readSource_value, normal]
        rfl

theorem readSource_digits_mixed : Readable "\u2003٠7 " ['٠', '7'] ∧
    readSource (.text "\u2003٠7 ") = .ok (.int 7) := by
  have decimal : ∀ c ∈ ['٠', '7'], isDecimal c = true := by
    simp only [List.forall_mem_cons]
    exact ⟨by decide, by decide, fun _ never => nomatch never⟩
  have spaced : ∀ c ∈ ['\u2003', '٠', '7', ' '], isBlank c = true → isWhiteSpace c = true := by
    simp only [List.forall_mem_cons]
    exact ⟨by decide, by decide, by decide, by decide, fun _ never => nomatch never⟩
  have readable : Readable "\u2003٠7 " ['٠', '7'] :=
    { around := ⟨['\u2003'], [' '], by decide, List.forall_mem_singleton.mpr (by decide),
        List.forall_mem_singleton.mpr (by decide)⟩
      filled := by decide
      all := fun c inside => isAnyDigit_of_isDecimal (decimal c inside)
      decimal
      short := by decide
      spaced }
  exact ⟨readable, (readSource_digits _).2.2.1 _ _ rfl readable⟩

/-- A digit that is raised, and a separator among the blanks, pass the guard and are refused by the
reader. -/
theorem spelled_refused :
    (Spells "²" ['²'] ∧ readSource (.text "²") = .error (.malformed 10 ['²'])) ∧
    Spells "\x1c4" ['4'] ∧ readSource (.text "\x1c4") = .error (.malformed 10 ['\x1c', '4']) := by
  have vacuous (c : Char) (inside : c ∈ []) : isBlank c = true := nomatch inside
  have single {c : Char} {p : Char → Bool} (holds : p c = true) : ∀ d ∈ [c], p d = true :=
    List.forall_mem_singleton.mpr holds
  refine ⟨⟨⟨⟨[], [], by decide, vacuous, vacuous⟩, by decide, single (by decide)⟩, ?_⟩,
    ⟨⟨['\x1c'], [], by decide, single (by decide), vacuous⟩, by decide, single (by decide)⟩, ?_⟩
  · rfl
  · rfl

end HatReel.Camera
