import HatReel.Proofs.Yaml.ItemLine

/-! Tokens of sheets.

A sheet is a document of two levels: sections, and fields in them. Keys of sections stand at the
margin, keys of fields in column two, and the items of a field in the column of its key. -/

namespace HatReel.Yaml

open Lexer

structure IsBehind (out : List Char) (kinds : List TokenKind) : Prop where
  apart : ∀ tail, endsWord (out ++ tail) = true
  lexes : ∀ {s : Lexer} {k : Nat} {rest : List Char},
    InLine s [2, 0] (out ++ (newLine k ++ rest)) → s.keyAllowed = false → k ≤ 2 → Resumes k rest →
    ∃ last, Lexes s kinds last ∧ AtLine last [2, 0] k rest

theorem isBehind_scalar {out : List Char} {text : ScalarText} (scalar : ReadsAs 4 out text) :
    IsBehind (' ' :: out) [.scalar text] where
  apart _ := rfl
  lexes inLine noKey back resumes := lexes_scalar scalar inLine noKey back (by decide) resumes

structure IsItem (w : List Char) : Prop where
  filled : w ≠ []
  word : IsWord w
  plain : allowsPlain w = true

def itemText (w : List Char) : List Char := newLine 2 ++ '-' :: ' ' :: w

def itemKinds (w : List Char) : List TokenKind := [.blockEntry, .scalar ⟨w, true, false⟩]

theorem lexes_items {ws : List (List Char)} (items : ∀ w ∈ ws, IsItem w) {s : Lexer} {k : Nat}
    {rest : List Char} (back : k ≤ 2) (resumes : Resumes k rest) {w : List Char} (item : IsItem w)
    (atLine :
      AtLine s [2, 0] 2 ('-' :: ' ' :: (w ++ (ws.flatMap itemText ++ (newLine k ++ rest))))) :
    ∃ last, Lexes s ((w :: ws).flatMap itemKinds) last ∧ AtLine last [2, 0] k rest := by
  induction ws generalizing s w with
  | nil =>
      obtain ⟨next, dash, inLine, isAllowed⟩ := lexes_dash atLine (by simp) (by decide)
      obtain ⟨last, word, atLast⟩ := lexes_word inLine isAllowed back resumes item.filled item.word
        item.plain
      exact ⟨last, dash.trans word, atLast⟩
  | cons v ws ih =>
      have atItem :
          Resumes 2 ('-' :: ' ' :: (v ++ (ws.flatMap itemText ++ (newLine k ++ rest)))) := by
        intro c isFirst
        cases isFirst
        exact ⟨rfl, by decide, fun isMargin => absurd isMargin (by decide)⟩
      have isNext : (v :: ws).flatMap itemText ++ (newLine k ++ rest) =
          newLine 2 ++ '-' :: ' ' :: (v ++ (ws.flatMap itemText ++ (newLine k ++ rest))) := by
        simp [itemText]
      rw [isNext] at atLine
      obtain ⟨next, dash, inLine, isAllowed⟩ := lexes_dash atLine (by simp) (by decide)
      obtain ⟨behind, word, atNext⟩ :=
        lexes_word inLine isAllowed (Nat.le_refl 2) atItem item.filled
        item.word item.plain
      obtain ⟨last, others, atLast⟩ := ih (fun u inside => items u (List.mem_cons_of_mem v inside))
        (items v List.mem_cons_self) atNext
      exact ⟨last, (dash.trans word).trans others, atLast⟩

theorem isBehind_items {ws : List (List Char)} (items : ∀ w ∈ ws, IsItem w) (more : ws ≠ []) :
    IsBehind (ws.flatMap itemText) (ws.flatMap itemKinds) := by
  cases ws with
  | nil => exact absurd rfl more
  | cons w ws =>
      refine ⟨fun tail => rfl, ?_⟩
      intro s k rest inLine noKey back resumes
      apply lexes_items (fun u inside => items u (List.mem_cons_of_mem w inside)) back resumes
        (items w List.mem_cons_self)
      refine ⟨inLine.toIsIdle, .inl ?_⟩
      rw [inLine.here]
      simp [itemText]

def entryKinds (name : List Char) (kinds : List TokenKind) : List TokenKind :=
  [.key, .scalar ⟨name, true, false⟩, .value] ++ kinds

/-- A field as it is written: its name, what stands behind the name, and the kinds of tokens of
that. -/
structure FieldLine where
  name : List Char
  out : List Char
  kinds : List TokenKind

namespace FieldLine

def text (f : FieldLine) : List Char := f.name ++ ':' :: f.out

def allKinds (f : FieldLine) : List TokenKind := entryKinds f.name f.kinds

structure IsFit (f : FieldLine) : Prop where
  isKey : IsKey f.name
  behind : IsBehind f.out f.kinds

end FieldLine

def fieldsText (fields : List FieldLine) : List Char := fields.flatMap fun f => newLine 2 ++ f.text

theorem lexes_field {f : FieldLine} (fit : f.IsFit) {s : Lexer} {left : List Nat}
    (opens : keyIndents left 2 = [2, 0]) (below : ∀ i ∈ left, i ≤ 2) {k : Nat} {rest : List Char}
    (atLine : AtLine s left 2 (f.text ++ (newLine k ++ rest))) (back : k ≤ 2)
    (resumes : Resumes k rest) :
    ∃ last, Lexes s (keyKinds [] left 2 f.name ++ f.kinds) last ∧ AtLine last [2, 0] k rest := by
  have isText : f.text ++ (newLine k ++ rest) =
      f.name ++ ':' :: (f.out ++ (newLine k ++ rest)) := by
    rw [FieldLine.text, List.append_assoc, List.cons_append]
  rw [isText] at atLine
  obtain ⟨next, key, inLine, noKey⟩ :=
    lexes_key (show AtLine s ([] ++ left) 2 _ from atLine) fit.isKey
    (fit.behind.apart _) (fun i inside => absurd inside List.not_mem_nil) below
  rw [opens] at inLine
  obtain ⟨last, value, atLast⟩ := fit.behind.lexes inLine noKey back resumes
  exact ⟨last, key.trans value, atLast⟩

theorem resumes_field {f : FieldLine} (fit : f.IsFit) (rest : List Char) :
    Resumes 2 (f.text ++ rest) := by
  rw [FieldLine.text, List.append_assoc]
  exact fit.isKey.resumes 2 _

theorem lexes_fields {fields : List FieldLine} (fits : ∀ f ∈ fields, f.IsFit) {f : FieldLine}
    (fit : f.IsFit) {s : Lexer} {left : List Nat} (opens : keyIndents left 2 = [2, 0])
    (below : ∀ i ∈ left, i ≤ 2) {rest : List Char}
    (atLine : AtLine s left 2 (f.text ++ (fieldsText fields ++ (newLine 0 ++ rest))))
    (resumes : Resumes 0 rest) :
    ∃ last, Lexes s
        (keyKinds [] left 2 f.name ++ f.kinds ++ fields.flatMap FieldLine.allKinds) last ∧
      AtLine last [2, 0] 0 rest := by
  induction fields generalizing s f left with
  | nil =>
      obtain ⟨last, field, atLast⟩ := lexes_field fit opens below atLine (Nat.zero_le 2) resumes
      exact ⟨last, by rwa [List.flatMap_nil, List.append_nil], atLast⟩
  | cons g fields ih =>
      have fit' := fits g List.mem_cons_self
      have isNext : fieldsText (g :: fields) ++ (newLine 0 ++ rest) =
          newLine 2 ++ (g.text ++ (fieldsText fields ++ (newLine 0 ++ rest))) := by
        simp [fieldsText]
      rw [isNext] at atLine
      obtain ⟨next, field, atNext⟩ := lexes_field fit opens below atLine (Nat.le_refl 2)
        (resumes_field fit' _)
      have opened : keyIndents [2, 0] 2 = [2, 0] := rfl
      obtain ⟨last, others, atLast⟩ := ih (fun h inside => fits h (List.mem_cons_of_mem g inside))
        fit' opened (by simp) atNext
      refine ⟨last, ?_, atLast⟩
      have all := field.trans others
      have isFlat : (g :: fields).flatMap FieldLine.allKinds =
          keyKinds [] [2, 0] 2 g.name ++ g.kinds ++ fields.flatMap FieldLine.allKinds := by
        simp [FieldLine.allKinds, entryKinds, keyKinds]
      rwa [isFlat]

structure SectionLines where
  name : List Char
  first : FieldLine
  others : List FieldLine

namespace SectionLines

def text (t : SectionLines) : List Char :=
  t.name ++ ':' :: (newLine 2 ++ t.first.text ++ fieldsText t.others)

def openKinds (t : SectionLines) : List TokenKind :=
  [.key, .scalar ⟨t.name, true, false⟩, .value, .blockMappingStart] ++
    (t.first :: t.others).flatMap FieldLine.allKinds

structure IsFit (t : SectionLines) : Prop where
  isKey : IsKey t.name
  first : t.first.IsFit
  others : ∀ f ∈ t.others, f.IsFit

end SectionLines

theorem lexes_section {t : SectionLines} (fit : t.IsFit) {s : Lexer} {closed left : List Nat}
    (opens : keyIndents left 0 = [0]) (above : ∀ i ∈ closed, 0 < i) (below : ∀ i ∈ left, i ≤ 0)
    {rest : List Char} (atLine : AtLine s (closed ++ left) 0 (t.text ++ (newLine 0 ++ rest)))
    (resumes : Resumes 0 rest) :
    ∃ last, Lexes s (closed.map (fun _ => .blockEnd) ++
        ((if left.head? = some 0 then [] else [.blockMappingStart]) ++ t.openKinds)) last ∧
      AtLine last [2, 0] 0 rest := by
  have isText : t.text ++ (newLine 0 ++ rest) = t.name ++ ':' ::
      (newLine 2 ++ (t.first.text ++ (fieldsText t.others ++ (newLine 0 ++ rest)))) := by
    simp [SectionLines.text]
  rw [isText] at atLine
  obtain ⟨next, key, inLine, noKey⟩ := lexes_key atLine fit.isKey rfl above below
  rw [opens] at inLine
  have atField : AtLine next [0] 2
      (t.first.text ++ (fieldsText t.others ++ (newLine 0 ++ rest))) :=
    ⟨inLine.toIsIdle, .inl inLine.here⟩
  obtain ⟨last, fields, atLast⟩ := lexes_fields fit.others fit.first rfl (by simp) atField resumes
  refine ⟨last, ?_, atLast⟩
  have all := key.trans fields
  simpa [keyKinds, SectionLines.openKinds, FieldLine.allKinds, entryKinds] using all

def sectionsText (sections : List SectionLines) : List Char :=
  sections.flatMap fun t => newLine 0 ++ t.text

theorem lexes_sections {sections : List SectionLines} (fits : ∀ t ∈ sections, t.IsFit)
    {t : SectionLines} (fit : t.IsFit) {s : Lexer} {closed left : List Nat}
    (opens : keyIndents left 0 = [0]) (above : ∀ i ∈ closed, 0 < i) (below : ∀ i ∈ left, i ≤ 0)
    (atLine : AtLine s (closed ++ left) 0 (t.text ++ (sectionsText sections ++ newLine 0))) :
    ∃ last, Lexes s (closed.map (fun _ => .blockEnd) ++
        ((if left.head? = some 0 then [] else [.blockMappingStart]) ++ t.openKinds) ++
          sections.flatMap fun u => .blockEnd :: u.openKinds) last ∧
      AtLine last [2, 0] 0 [] := by
  induction sections generalizing s t closed left with
  | nil =>
      have atEnd : Resumes 0 [] := fun c isFirst => by cases isFirst
      obtain ⟨last, one, atLast⟩ := lexes_section fit opens above below atLine atEnd
      exact ⟨last, by rwa [List.flatMap_nil, List.append_nil], atLast⟩
  | cons u sections ih =>
      have fit' := fits u List.mem_cons_self
      have isNext : sectionsText (u :: sections) ++ newLine 0 =
          newLine 0 ++ (u.text ++ (sectionsText sections ++ newLine 0)) := by
        simp [sectionsText]
      have atKey : Resumes 0 (u.text ++ (sectionsText sections ++ newLine 0)) := by
        rw [SectionLines.text, List.append_assoc]
        exact fit'.isKey.resumes 0 _
      rw [isNext] at atLine
      obtain ⟨next, one, atNext⟩ := lexes_section fit opens above below atLine atKey
      have opened : keyIndents [0] 0 = [0] := rfl
      obtain ⟨last, others, atLast⟩ := ih (fun v inside => fits v (List.mem_cons_of_mem u inside))
        fit' opened (by simp) (by simp) (show AtLine next ([2] ++ [0]) 0 _ from atNext)
      refine ⟨last, ?_, atLast⟩
      have all := one.trans others
      simpa using all

def sheetText (t : SectionLines) (sections : List SectionLines) : List Char :=
  t.text ++ (sectionsText sections ++ newLine 0)

def SectionLines.kinds (t : SectionLines) : List TokenKind := t.openKinds ++ [.blockEnd]

def sheetKinds (sections : List SectionLines) : List TokenKind :=
  .streamStart :: .blockMappingStart :: (sections.flatMap SectionLines.kinds ++
    [.blockEnd, .streamEnd])

/-- A block ends before the next one begins, or at the end: after each section in either case. -/
theorem ends_between (t : SectionLines) (sections : List SectionLines) :
    t.openKinds ++ sections.flatMap (fun u => .blockEnd :: u.openKinds) ++ [.blockEnd] =
      (t :: sections).flatMap SectionLines.kinds := by
  induction sections generalizing t with
  | nil => simp [SectionLines.kinds]
  | cons u sections ih =>
      change _ = t.kinds ++ (u :: sections).flatMap SectionLines.kinds
      rw [← ih u]
      simp [SectionLines.kinds]

theorem atLine_start (text : List Char) : AtLine
    { Lexer.start text with waiting := [], handedOut := 1 } [] 0 text :=
  ⟨⟨rfl, rfl, rfl, rfl, rfl⟩, .inr ⟨rfl, rfl, rfl⟩⟩

theorem tokens_sheet {t : SectionLines} (fit : t.IsFit) {sections : List SectionLines}
    (fits : ∀ u ∈ sections, u.IsFit) :
    ∃ tokens : List Token, Tokens.ofText (sheetText t sections) = ⟨tokens, none⟩ ∧
      tokens.map (·.kind) = sheetKinds (t :: sections) := by
  have start := Runs.handOutAll (s := Lexer.start (sheetText t sections)) rfl
  have opened : keyIndents [] 0 = [0] := rfl
  obtain ⟨last, ⟨n, few, lines⟩, atLast⟩ := lexes_sections fits fit opened (by simp) (by simp)
    (show AtLine _ ([] ++ []) 0 _ from atLine_start (sheetText t sections))
  obtain ⟨m, done, isWidth, ends, isDone⟩ :=
    runs_end (show AtLine last ([2] ++ [0]) 0 [] from atLast)
    (by simp) (by simp)
  obtain ⟨tokens, isKinds, goesOn⟩ := (start.trans lines).trans ends
  have enough : ∃ k, 8 * (sheetText t sections).length + 16 =
      (Lexer.start (sheetText t sections)).waiting.length + n + m + k := by
    apply Nat.exists_eq_add_of_le
    have one : (Lexer.start (sheetText t sections)).waiting.length = 1 := rfl
    have isText : (Lexer.start (sheetText t sections)).cursor.rest = sheetText t sections := rfl
    simp only [List.length_append, List.length_singleton] at isWidth
    simp only [isText] at few
    rw [isWidth, one]
    have flat : (Lexer.start (sheetText t sections)).indents = [] := rfl
    simp only [flat, List.length_nil] at few
    omega
  obtain ⟨k, isEnough⟩ := enough
  refine ⟨tokens, ?_, ?_⟩
  · unfold Tokens.ofText
    rw [isEnough, goesOn, isDone]
    simp
  · have between := ends_between t sections
    rw [isKinds, sheetKinds, ← between]
    simp [Lexer.start]

end HatReel.Yaml
