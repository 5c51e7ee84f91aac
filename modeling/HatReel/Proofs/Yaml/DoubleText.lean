import HatReel.Proofs.Decimal.Digits
import HatReel.Proofs.Yaml.PlainText
import HatReel.Proofs.Yaml.QuotedScalar

/-! Texts between double quotes read back.

Every character beyond the printable ones is an escape, by a letter or by its code in base sixteen.
Lines are broken behind a backslash; a space that comes first on the new line is an escape as
well. -/

namespace HatReel.Yaml

open HatReel.Decimal HatReel.Text

theorem capitalDigit (d : Nat) (small : d < 16) :
    asciiDigitValue? (hexDigit d).toUpper = some d ∧ isAsciiHex (hexDigit d).toUpper = true := by
  have each : ∀ d : Fin 16, asciiDigitValue? (hexDigit d).toUpper = some d.val ∧
      isAsciiHex (hexDigit d).toUpper = true := by decide
  exact each ⟨d, small⟩

theorem length_capitalDigits (n width : Nat) : (capitalDigits n width).length = width := by
  rw [capitalDigits, List.length_map, length_hexDigits]

theorem capitalDigits_succ (n width : Nat) :
    capitalDigits n (width + 1) = capitalDigits (n / 16) width ++
      [(hexDigit (n % 16)).toUpper] := by
  rw [capitalDigits, hexDigits, List.map_append]
  rfl

theorem isAsciiHex_capitalDigits (n width : Nat) :
    ∀ c ∈ capitalDigits n width, isAsciiHex c = true := by
  induction width generalizing n with
  | zero => exact fun c inside => absurd inside List.not_mem_nil
  | succ width ih =>
      intro c inside
      rw [capitalDigits_succ] at inside
      cases List.mem_append.mp inside with
      | inl before => exact ih (n / 16) c before
      | inr last =>
          rw [List.mem_singleton.mp last]
          exact (capitalDigit _ (Nat.mod_lt n (by decide))).2

theorem ofDigits_capitalDigits (n width : Nat) :
    ofDigits 16 ((capitalDigits n width).filterMap asciiDigitValue?) = n % 16 ^ width := by
  induction width generalizing n with
  | zero => rw [Nat.pow_zero, Nat.mod_one]; rfl
  | succ width ih =>
      have last := (capitalDigit (n % 16) (Nat.mod_lt n (by decide))).1
      rw [capitalDigits_succ, List.filterMap_append]
      simp only [List.filterMap_cons, last, List.filterMap_nil]
      rw [ofDigits_append, ih, Nat.pow_succ, Nat.mul_comm (16 ^ width), Nat.mod_mul]
      simp only [List.length_singleton, ofDigits, List.foldl_cons, List.foldl_nil]
      omega

theorem codePiece_char (c : Char) : codePiece c.toNat = .ok ⟨[c], false⟩ := by
  have valid : c.toNat < 0xd800 ∨ (0xdfff < c.toNat ∧ c.toNat < 0x110000) := c.valid
  have isCode : ¬0x10ffff < c.toNat := by omega
  have noHalf : (decide (0xd800 ≤ c.toNat) && decide (c.toNat < 0xe000)) = false := by
    rw [Bool.and_eq_false_iff, decide_eq_false_iff_not, decide_eq_false_iff_not]
    omega
  rw [codePiece, if_neg isCode, noHalf, Char.ofNat_toNat]
  rfl

section Escape

variable {rest text tail : List Char}

theorem quotes_code {letter : Char} {width : Nat} (noLetter : escape? letter = none)
    (isCode : codeLength? letter = some width) {c : Char} (small : c.toNat < 16 ^ width)
    (reads : Quotes true rest text tail) :
    Quotes true ('\\' :: letter :: (capitalDigits c.toNat width ++ rest)) (c :: text) tail := by
  apply quotes_escape (letter :: capitalDigits c.toNat width) [c] _ reads
  intro cursor here
  have isLetter : cursor.peek = letter := Cursor.peek_cons here
  have next : cursor.step.rest = capitalDigits c.toNat width ++ rest := by
    rw [Cursor.rest_step, here]
    rfl
  have digits : cursor.step.rest.take width = capitalDigits c.toNat width := by
    rw [next, List.take_left' (length_capitalDigits c.toNat width)]
  have allHex : (capitalDigits c.toNat width).find? (!isAsciiHex ·) = none := by
    rw [List.find?_eq_none]
    intro d inside
    simp [isAsciiHex_capitalDigits c.toNat width d inside]
  have enough : ¬cursor.step.rest.length < width := by
    rw [next, List.length_append, length_capitalDigits]
    omega
  refine ⟨cursor.step.skip width, ?_, ?_⟩
  · rw [Cursor.rest_skip, next, List.drop_left' (length_capitalDigits c.toNat width)]
  · unfold readEscape
    rw [isLetter, noLetter, isCode]
    simp only [readCode, digits, allHex, if_neg enough, ofDigits_capitalDigits,
      Nat.mod_eq_of_lt small, codePiece_char]
    rfl

theorem quotes_escaped (c : Char) (reads : Quotes true rest text tail) :
    Quotes true (escaped c ++ rest) (c :: text) tail := by
  unfold escaped
  cases found : escapeLetters.lookup c with
  | some letter =>
      have known : ∀ e ∈ escapeLetters, escape? e.2 = some e.1 := by decide
      obtain ⟨before, behind, isSplit, _⟩ := List.lookup_eq_some_iff.mp found
      have inside : (c, letter) ∈ escapeLetters := by
        rw [isSplit]
        simp
      exact quotes_letter (known _ inside) reads
  | none =>
      have valid : c.toNat < 0xd800 ∨ (0xdfff < c.toNat ∧ c.toNat < 0x110000) := c.valid
      by_cases byte : c.toNat < 0x100
      · simp only [if_pos byte]
        exact quotes_code (by decide) (by decide) byte reads
      · by_cases word : c.toNat < 0x10000
        · simp only [if_neg byte, if_pos word]
          exact quotes_code (by decide) (by decide) word reads
        · simp only [if_neg byte, if_neg word]
          exact quotes_code (by decide) (by decide) (by omega) reads

end Escape

section Body

variable {indent column : Nat} {isFirst afterEscape : Bool} {c : Char} {rest : List Char}

theorem doubleBody_escape (needs : needsEscape c = true) :
    (∃ column', doubleBody (some indent) column isFirst afterEscape (c :: rest) =
      escaped c ++ doubleBody (some indent) column' false true rest) ∨
    (rest ≠ [] ∧ doubleBody (some indent) column isFirst afterEscape (c :: rest) =
      escaped c ++ ((softBreak indent rest.head?).1 ++
        doubleBody (some indent) (softBreak indent rest.head?).2 false true rest)) := by
  rw [doubleBody, if_pos needs]
  simp only [Option.isSome_some, Bool.true_and, Option.getD_some]
  cases breaks : !isFirst && !rest.isEmpty &&
      decide (lineWidth + 1 < column + (escaped c).length) with
  | true =>
      have more : rest ≠ [] := by
        rintro rfl
        simp at breaks
      rw [if_pos rfl, List.append_assoc]
      exact .inr ⟨more, rfl⟩
  | false => exact .inl ⟨_, rfl⟩

/-- Only beyond the width is a line broken before a character that needs no escape. -/
theorem doubleBody_char (plain : needsEscape c = false) :
    doubleBody (some indent) column isFirst afterEscape (c :: rest) =
      c :: doubleBody (some indent) (column + 1) false false rest ∨
    (lineWidth < column ∧ doubleBody (some indent) column isFirst afterEscape (c :: rest) =
      (softBreak indent (some c)).1 ++
        c :: doubleBody (some indent) ((softBreak indent (some c)).2 + 1) false false rest) := by
  rw [doubleBody, plain]
  simp only [Option.isSome_some, Bool.true_and, Option.getD_some, Bool.false_eq_true, if_false]
  cases breaks : !isFirst && !rest.isEmpty && (c == ' ' || afterEscape) &&
      decide (lineWidth < column) with
  | true =>
      rw [Bool.and_eq_true, decide_eq_true_eq] at breaks
      exact .inr ⟨breaks.2, rfl⟩
  | false => exact .inl rfl

theorem needsEscape_visible (plain : needsEscape c = false) (noSpace : c ≠ ' ') :
    isVisible c = true ∧ c ≠ quoteMark true ∧ c ≠ '\\' := by
  simp only [needsEscape, Bool.or_eq_false_iff, beq_eq_false_iff_ne, Bool.not_eq_false'] at plain
  obtain ⟨⟨noQuote, noSlash⟩, printable⟩ := plain
  exact ⟨isVisible_of_printable printable noSpace, noQuote, noSlash⟩

theorem escaped_head (c : Char) : ∃ more, escaped c = '\\' :: more := by
  unfold escaped
  cases escapeLetters.lookup c with
  | some letter => exact ⟨_, rfl⟩
  | none =>
      simp only
      split
      · exact ⟨_, rfl⟩
      · split <;> exact ⟨_, rfl⟩

theorem softBreak_head (indent : Nat) (next : Option Char) :
    ∃ more, (softBreak indent next).1 = '\\' :: more := by
  unfold softBreak
  split <;> exact ⟨_, rfl⟩

/-- What is written begins with a visible character, unless the text begins with a space. -/
theorem doubleBody_head (rest : List Char) (column : Nat) (isFirst afterEscape : Bool)
    (noSpace : rest.head? ≠ some ' ') (tail : List Char) : ∃ d more, isVisible d = true ∧
      doubleBody (some indent) column isFirst afterEscape rest ++ '\x22' :: tail = d :: more := by
  cases rest with
  | nil => exact ⟨'\x22', tail, rfl, rfl⟩
  | cons c rest =>
      have noSpace : c ≠ ' ' := by simpa using noSpace
      cases needs : needsEscape c with
      | true =>
          obtain ⟨more, code⟩ := escaped_head c
          rcases doubleBody_escape needs with ⟨_, body⟩ | ⟨_, body⟩ <;>
            · rw [body, code]
              exact ⟨'\\', _, rfl, rfl⟩
      | false =>
          rcases doubleBody_char needs with body | ⟨_, body⟩
          · rw [body]
            exact ⟨c, _, (needsEscape_visible needs noSpace).1, rfl⟩
          · obtain ⟨more, gap⟩ := softBreak_head indent (some c)
            rw [body, gap]
            exact ⟨'\\', _, rfl, rfl⟩

end Body

section Reading

variable {indent : Nat} {rest text tail : List Char}

theorem quotes_breakSpace (reads : Quotes true rest text tail) :
    Quotes true ((softBreak (indent + 1) (some ' ')).1 ++ ' ' :: rest) (' ' :: text) tail := by
  have isGap : (softBreak (indent + 1) (some ' ')).1 ++ ' ' :: rest =
      '\\' :: (newLine (indent + 1) ++ '\\' :: ' ' :: rest) := by
    simp [softBreak]
  have known : escape? ' ' = some ' ' := by decide
  rw [isGap]
  exact quotes_soft rfl indent (quotes_letter known reads)

theorem quotes_breakOther {next : Option Char} (other : next ≠ some ' ') {d : Char}
    {more : List Char} (visible : isVisible d = true) (reads : Quotes true (d :: more) text tail) :
    Quotes true ((softBreak (indent + 1) next).1 ++ d :: more) text tail := by
  have isGap : (softBreak (indent + 1) next).1 ++ d :: more =
      '\\' :: (newLine (indent + 1) ++ d :: more) := by
    simp [softBreak, other]
  rw [isGap]
  exact quotes_soft visible indent reads

theorem quotes_broken (narrow : indent + 2 ≤ lineWidth) (more : rest ≠ [])
    (reads : ∀ others column isFirst afterEscape, others.length ≤ rest.length →
      Quotes true
        (doubleBody (some (indent + 1)) column isFirst afterEscape others ++ '\x22' :: tail)
        others tail) :
    Quotes true ((softBreak (indent + 1) rest.head?).1 ++
      (doubleBody (some (indent + 1)) (softBreak (indent + 1) rest.head?).2 false true rest ++
        '\x22' :: tail)) rest tail := by
  cases rest with
  | nil => exact absurd rfl more
  | cons d rest =>
      rw [List.head?_cons]
      by_cases isSpace : d = ' '
      · subst isSpace
        rcases @doubleBody_char (indent + 1) _ _ _ ' ' rest rfl with body | ⟨wide, _⟩
        · rw [body]
          exact quotes_breakSpace (reads rest _ false false (Nat.le_succ _))
        · exact absurd wide (Nat.not_lt.mpr narrow)
      · have noSpace : (d :: rest).head? ≠ some ' ' := by simpa using isSpace
        obtain ⟨e, more, visible, head⟩ := @doubleBody_head (indent + 1) (d :: rest)
          (softBreak (indent + 1) (some d)).2 false true noSpace tail
        have others :=
          reads (d :: rest) (softBreak (indent + 1) (some d)).2 false true (Nat.le_refl _)
        rw [head] at others
        rw [head]
        exact quotes_breakOther (by simpa using isSpace) visible others

/-- Reading what was written gives the text, also with spaces before it that are not read yet. -/
theorem quotes_doubleBody (narrow : indent + 2 ≤ lineWidth) (cs : List Char) (column : Nat)
    (isFirst afterEscape : Bool) (k : Nat) :
    Quotes true (blanks k ++
      (doubleBody (some (indent + 1)) column isFirst afterEscape cs ++ '\x22' :: tail))
      (blanks k ++ cs) tail := by
  induction length : cs.length using Nat.strongRecOn
    generalizing cs column isFirst afterEscape k with
  | ind size ih =>
      cases cs with
      | nil => exact quotes_blanks rfl k (quotes_close (.inl rfl))
      | cons c rest =>
          have reads (others : List Char) (column : Nat) (isFirst afterEscape : Bool)
              (shorter : others.length ≤ rest.length) : Quotes true
              (doubleBody (some (indent + 1)) column isFirst afterEscape others ++ '\x22' :: tail)
              others tail := by
            have smaller : others.length < size := by
              rw [← length]
              exact Nat.lt_succ_of_le shorter
            exact ih _ smaller others column isFirst afterEscape 0 rfl
          have next := reads rest
          by_cases isSpace : c = ' '
          · subst isSpace
            rcases @doubleBody_char (indent + 1) _ _ _ ' ' rest rfl with body | ⟨_, body⟩
            · have smaller : rest.length < size := by
                rw [← length]
                exact Nat.lt_succ_self _
              have others := ih _ smaller rest (column + 1) false false (k + 1) rfl
              rw [blanks, List.replicate_succ', List.append_assoc, List.append_assoc] at others
              rw [body]
              exact others
            · have others := @quotes_breakSpace indent _ _ _
                (next ((softBreak (indent + 1) (some ' ')).2 + 1) false false (Nat.le_refl _))
              obtain ⟨more, gap⟩ := softBreak_head (indent + 1) (some ' ')
              rw [body, List.append_assoc]
              rw [gap] at others ⊢
              exact quotes_blanks rfl k others
          · have noSpace : (c :: rest).head? ≠ some ' ' := by simpa using isSpace
            obtain ⟨d, more, visible, head⟩ := @doubleBody_head (indent + 1) (c :: rest)
              column isFirst afterEscape noSpace tail
            rw [head]
            apply quotes_blanks visible k
            rw [← head]
            cases needs : needsEscape c with
            | true =>
                rcases doubleBody_escape needs with ⟨column', body⟩ | ⟨isVisible, body⟩
                · rw [body, List.append_assoc]
                  exact quotes_escaped c (next column' false true (Nat.le_refl _))
                · rw [body, List.append_assoc, List.append_assoc]
                  exact quotes_escaped c (quotes_broken narrow isVisible reads)
            | false =>
                obtain ⟨visible, noQuote, noSlash⟩ := needsEscape_visible needs isSpace
                have others (column : Nat) := quotes_char visible noQuote (fun _ => noSlash)
                  (next column false false (Nat.le_refl _))
                rcases doubleBody_char needs with body | ⟨_, body⟩
                · rw [body]
                  exact others (column + 1)
                · rw [body, List.append_assoc]
                  exact quotes_breakOther (by simpa using isSpace) visible (others _)

end Reading

end HatReel.Yaml
