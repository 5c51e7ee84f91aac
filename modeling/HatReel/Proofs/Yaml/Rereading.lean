import HatReel.Proofs.Yaml.Composing
import HatReel.Proofs.Yaml.Reals
import HatReel.Proofs.Yaml.Visiting
import HatReel.Proofs.Yaml.Written

/-! Documents that are printed and read.

A mapping of names to mappings is printed as a sheet. Reading the sheet gives the same names with
the same values, tuples as lists. -/

namespace HatReel.Yaml

open HatReel.Decimal HatReel.Document

def HasFewDigits (n : Int) : Prop := (digitChars n.natAbs).length ≤ digitLimit

instance (n : Int) : Decidable (HasFewDigits n) := inferInstanceAs (Decidable (_ ≤ _))

def reread : Value → Value
  | .tuple items => .list items
  | v => v

def valueKinds : Value → List TokenKind
  | .tuple items => (items.map (scalarText none 0)).flatMap itemKinds
  | .text s => [.scalar ⟨s.toList, Style.of s.toList == .plain, false⟩]
  | v => [.scalar ⟨scalarText none 0 v, true, false⟩]

structure Rereads (v : Value) : Prop where
  behind : ∀ column, IsBehind (behind true 2 column v) (valueKinds v)
  present : ∃ k ks, valueKinds v = k :: ks ∧ Read.isAbsent k = false
  reads : ∀ fuel depth, Read.Reads (Read.node (fuel + 2) .blockOrFlat) (valueKinds v) Read.EndsValue
    fun nodes id => Holds nodes (depth + 2) id (reread v)
  ascii : ∀ column, IsAscii (Yaml.behind true 2 column v)

theorem rereads_word {v : Value} {word : List Char} (said : Says word v)
    (isText : ∀ column, behind true 2 column v = ' ' :: word)
    (isKinds : valueKinds v = [.scalar ⟨word, true, false⟩]) (same : reread v = v) : Rereads v where
  behind column := by
    rw [isText, isKinds]
    exact isBehind_scalar (readsAs_word said.filled said.word said.plain)
  present := ⟨_, _, isKinds, rfl⟩
  reads fuel depth := by
    rw [isKinds, same]
    exact Read.reads_scalar (means_word said) (fuel + 1) (depth + 1) .blockOrFlat Read.EndsValue
  ascii column := by
    rw [isText]
    exact (isAscii_word said.word).cons rfl

theorem rereads_null : Rereads .null := rereads_word says_null (fun _ => rfl) rfl rfl

theorem rereads_bool (b : Bool) : Rereads (.bool b) :=
  rereads_word (says_bool b) (fun _ => rfl) rfl rfl

theorem rereads_int {n : Int} (short : HasFewDigits n) : Rereads (.int n) :=
  rereads_word (says_int short) (fun _ => rfl) rfl rfl

theorem rereads_float (x : Float) : Rereads (.float x) :=
  rereads_word (says_real x) (fun _ => rfl) rfl rfl

theorem means_text (s : String) :
    Means ⟨s.toList, Style.of s.toList == .plain, false⟩ (.text s) := by
  have isText : scalarTag none ⟨s.toList, Style.of s.toList == .plain, false⟩ = .str := by
    unfold scalarTag
    cases style : Style.of s.toList with
    | plain => exact (style_plain style).1
    | single => rfl
    | double => rfl
  refine ⟨by rw [isText]; rfl, fun place => ?_⟩
  rw [isText]
  exact congrArg (fun t => Except.ok (Value.text t)) String.ofList_toList

theorem rereads_text (s : String) : Rereads (.text s) where
  behind column := isBehind_scalar (readsAs_text (by decide) (column + 1) s.toList)
  present := ⟨_, _, rfl, rfl⟩
  reads fuel depth :=
    Read.reads_scalar (means_text s) (fuel + 1) (depth + 1) .blockOrFlat Read.EndsValue
  ascii column := (isAscii_text (some 4) (column + 1) s.toList).cons rfl

theorem printItems_ints (ns : List Int) :
    printItems 2 (ns.map .int) = ((ns.map Value.int).map (scalarText none 0)).flatMap itemText := by
  induction ns with
  | nil => rfl
  | cons n ns ih =>
      rw [List.map_cons, printItems, ih]
      rfl

theorem rereads_ints {ns : List Int} (more : ns ≠ []) (short : ∀ n ∈ ns, HasFewDigits n) :
    Rereads (.tuple (ns.map .int)) := by
  obtain ⟨n, others, rfl⟩ := List.exists_cons_of_ne_nil more
  have isText (column : Nat) : behind true 2 column (.tuple ((n :: others).map .int)) =
      (((n :: others).map Value.int).map (scalarText none 0)).flatMap itemText := by
    rw [← printItems_ints]
    rfl
  have items : ∀ w ∈ ((n :: others).map Value.int).map (scalarText none 0), IsItem w := by
    intro w inside
    obtain ⟨v, isValue, rfl⟩ := List.mem_map.mp inside
    obtain ⟨m, isNumber, rfl⟩ := List.mem_map.mp isValue
    have said := says_int (short m isNumber)
    exact ⟨said.filled, said.word, said.plain⟩
  refine ⟨fun column => ?_, ⟨_, _, rfl, rfl⟩, fun fuel depth => ?_, fun column => ?_⟩
  · rw [isText]
    exact isBehind_items items (List.cons_ne_nil _ _)
  · refine Read.reads_list (List.cons_ne_nil _ _) ?_
    rw [List.forall₂_map_left_iff, List.forall₂_same]
    intro v inside
    obtain ⟨m, isNumber, rfl⟩ := List.mem_map.mp inside
    exact means_word (says_int (short m isNumber))
  · rw [isText]
    refine IsAscii.flatMap fun w inside => ?_
    exact (isAscii_newLine 2).append (((isAscii_word (items w inside).word).cons rfl).cons rfl)

namespace IsKey

variable {name : String} (isKey : IsKey name.toList)

include isKey

theorem style : Style.of name.toList = .plain := by
  unfold Style.of
  rw [isKey.implied, isKey.plain]
  rfl

theorem means : Means ⟨name.toList, true, false⟩ (.text name) := by
  have said := means_text name
  rwa [isKey.style] at said

theorem ascii : IsAscii name.toList :=
  isAscii_visible fun _ inside => (isKey.letter inside).1

theorem scalarText_name (column : Nat) : scalarText none column (.text name) = name.toList := by
  have same (cs : List Char) (column : Nat) (before : Option Char) :
      plainBody none column before cs = cs := by
    induction cs generalizing column before with
    | nil => rfl
    | cons c cs ih => exact congrArg (c :: ·) (ih (column + 1) (.some c))
  change printText none column name.toList = name.toList
  unfold printText
  rw [isKey.style]
  exact same name.toList column none

theorem isShortKey_name : isShortKey (.text name) = true := by
  have filled : name.isEmpty = false := by
    rw [Bool.eq_false_iff]
    intro empty
    have isNil : name = "" := String.isEmpty_iff.mp empty
    exact isKey.filled (by rw [isNil]; rfl)
  have short : name.length < keyWidth := by
    rw [← String.length_toList]
    exact isKey.short
  have noBreak : name.toList.any isBreak = false := by
    rw [List.any_eq_false]
    intro c inside
    rw [isBreak_visible (isKey.letter inside).1]
    exact Bool.false_ne_true
  simp [isShortKey, filled, noBreak, short]

theorem printEntry_name (indent : Nat) (v : Value) :
    printEntry indent (.text name, v) =
      name.toList ++ ':' :: behind true indent (indent + name.toList.length + 1) v := by
  rw [printEntry, if_pos isKey.isShortKey_name, isKey.scalarText_name]

end IsKey

def fieldLine (f : String × Value) : FieldLine :=
  ⟨f.1.toList, behind true 2 (2 + f.1.toList.length + 1) f.2, valueKinds f.2⟩

structure IsField (f : String × Value) : Prop where
  isKey : IsKey f.1.toList
  value : Rereads f.2

namespace IsField

variable {f : String × Value} (isField : IsField f)

include isField

theorem fit : (fieldLine f).IsFit := ⟨isField.isKey, isField.value.behind _⟩

theorem printed : printEntry 2 (named f) = (fieldLine f).text := isField.isKey.printEntry_name 2 f.2

theorem ascii : IsAscii (fieldLine f).text :=
  isField.isKey.ascii.append ((isField.value.ascii _).cons rfl)

theorem entry (fuel depth : Nat) :
    Read.IsEntry (Read.node (fuel + 2) .blockOrFlat) (depth + 2)
      ((fieldLine f).name, (fieldLine f).kinds) (f.1, reread f.2) :=
  ⟨isField.isKey.means, isField.value.present, isField.value.reads fuel depth⟩

end IsField

theorem printEntries_fields {fields : List (String × Value)} (each : ∀ f ∈ fields, IsField f) :
    printEntries 2 (fields.map named) = fieldsText (fields.map fieldLine) := by
  induction fields with
  | nil => rfl
  | cons f fields ih =>
      rw [List.map_cons, printEntries, (each f List.mem_cons_self).printed,
        ih fun g inside => each g (List.mem_cons_of_mem f inside)]
      rfl

structure Part where
  name : String
  fields : List (String × Value)
  more : fields ≠ []

namespace Part

def entry (p : Part) : String × Value := (p.name, .map (p.fields.map named))

def reread (p : Part) : Part :=
  ⟨p.name, p.fields.map fun f => (f.1, Yaml.reread f.2), mt List.map_eq_nil_iff.mp p.more⟩

def lines (p : Part) : SectionLines :=
  ⟨p.name.toList, fieldLine (p.fields.head p.more), p.fields.tail.map fieldLine⟩

def line (p : Part) : List Char × List TokenKind :=
  (p.name.toList, .blockMappingStart ::
    Read.linesKinds (p.fields.map fun f => ((fieldLine f).name, (fieldLine f).kinds)))

structure IsSection (p : Part) : Prop where
  isKey : IsKey p.name.toList
  fields : ∀ f ∈ p.fields, IsField f
  distinct : (p.fields.map (·.1)).Nodup

theorem lines_fields (p : Part) : p.lines.first :: p.lines.others = p.fields.map fieldLine := by
  change fieldLine (p.fields.head p.more) :: p.fields.tail.map fieldLine = _
  rw [← List.map_cons, List.cons_head_tail]

theorem lines_kinds (p : Part) : p.lines.kinds = entryKinds p.line.1 p.line.2 := by
  unfold SectionLines.kinds SectionLines.openKinds
  rw [p.lines_fields]
  simp [Read.linesKinds, entryKinds, FieldLine.allKinds, List.flatMap_map, lines, line]

namespace IsSection

variable {p : Part} (isSection : p.IsSection)

include isSection

theorem fit : p.lines.IsFit where
  isKey := isSection.isKey
  first := (isSection.fields _ (List.head_mem p.more)).fit
  others f inside := by
    obtain ⟨g, isTail, rfl⟩ := List.mem_map.mp inside
    exact (isSection.fields g (List.mem_of_mem_tail isTail)).fit

theorem printed : printEntry 0 (named p.entry) = p.lines.text := by
  obtain ⟨name, fields, more⟩ := p
  obtain ⟨f, others, rfl⟩ := List.exists_cons_of_ne_nil more
  have first := (isSection.fields f List.mem_cons_self).printed
  have rest :=
    printEntries_fields fun g inside => isSection.fields g (List.mem_cons_of_mem f inside)
  refine (isSection.isKey.printEntry_name 0 _).trans ?_
  change name.toList ++ ':' :: (newLine 2 ++ printEntry 2 (named f) ++
    printEntries 2 (others.map named)) = _
  rw [first, rest]
  rfl

theorem ascii : IsAscii p.lines.text := by
  have first := (isSection.fields _ (List.head_mem p.more)).ascii
  have rest : IsAscii (fieldsText p.lines.others) := by
    refine IsAscii.flatMap fun f inside => (isAscii_newLine 2).append ?_
    obtain ⟨g, isTail, rfl⟩ := List.mem_map.mp inside
    exact (isSection.fields g (List.mem_of_mem_tail isTail)).ascii
  exact isSection.isKey.ascii.append ((((isAscii_newLine 2).append first).append rest).cons rfl)

theorem reads (fuel depth : Nat) :
    Read.IsEntry (Read.node (fuel + 3) .blockOrFlat) (depth + 3) p.line p.reread.entry := by
  refine ⟨isSection.isKey.means, ⟨_, _, rfl, rfl⟩, ?_⟩
  refine Read.reads_mapping (by decide) ?_ ?_ Read.EndsValue
  · unfold reread
    rw [List.forall₂_map_left_iff, List.forall₂_map_right_iff, List.forall₂_same]
    exact fun f inside => (isSection.fields f inside).entry fuel depth
  · have same : p.reread.fields.map (·.1) = p.fields.map (·.1) := by
      unfold reread
      rw [List.map_map]
      rfl
    rw [same]
    exact isSection.distinct

end IsSection

end Part

theorem printEntries_parts {parts : List Part} (each : ∀ p ∈ parts, p.IsSection) :
    printEntries 0 (parts.map fun p => named p.entry) = sectionsText (parts.map Part.lines) := by
  induction parts with
  | nil => rfl
  | cons p parts ih =>
      rw [List.map_cons, printEntries, (each p List.mem_cons_self).printed,
        ih fun q inside => each q (List.mem_cons_of_mem p inside)]
      rfl

theorem printMapping_parts {parts : List Part} (more : parts ≠ [])
    (each : ∀ p ∈ parts, p.IsSection) :
    ∃ p others, parts = p :: others ∧
      (printMapping (parts.map fun p => named p.entry)).toList =
        sheetText p.lines (others.map Part.lines) ∧
      IsAscii (printMapping (parts.map fun p => named p.entry)).toList := by
  obtain ⟨p, others, rfl⟩ := List.exists_cons_of_ne_nil more
  have each' : ∀ q ∈ others, q.IsSection := fun q inside => each q (List.mem_cons_of_mem p inside)
  have first := each p List.mem_cons_self
  have isText : (printMapping ((p :: others).map fun p => named p.entry)).toList =
      sheetText p.lines (others.map Part.lines) := by
    rw [List.map_cons, printMapping, first.printed, printEntries_parts each', String.toList_ofList,
      List.append_assoc]
    rfl
  refine ⟨p, others, rfl, isText, ?_⟩
  rw [isText]
  refine first.ascii.append (IsAscii.append ?_ (isAscii_newLine 0))
  refine IsAscii.flatMap fun t inside => (isAscii_newLine 0).append ?_
  obtain ⟨q, isOther, rfl⟩ := List.mem_map.mp inside
  exact (each' q isOther).ascii

/-- The tokens of sections are read as a node that holds the sections. -/
theorem reads_parts {parts : List Part} (more : parts ≠ []) (each : ∀ p ∈ parts, p.IsSection)
    (distinct : (parts.map Part.name).Nodup) {fuel : Nat}
    (enough : (Read.linesKinds (parts.map Part.line)).length < fuel) :
    Read.Reads (Read.node fuel .block) (.blockMappingStart :: Read.linesKinds (parts.map Part.line))
      (fun _ => True) fun nodes id =>
        Holds nodes 4 id (.map (parts.map fun p => named p.reread.entry)) := by
  -- there are more tokens than levels, since there is at least one section
  obtain ⟨f, rfl⟩ : ∃ f, fuel = f + 4 := by
    refine Nat.exists_eq_add_of_le' ?_
    obtain ⟨p, others, rfl⟩ := List.exists_cons_of_ne_nil more
    simp only [Read.linesKinds, List.map_cons, List.flatMap_cons, entryKinds, List.length_append,
      List.length_cons] at enough
    omega
  have entries : List.Forall₂ (Read.IsEntry (Read.node (f + 3) .blockOrFlat) 3)
      (parts.map Part.line) (parts.map fun p => p.reread.entry) := by
    rw [List.forall₂_map_left_iff, List.forall₂_map_right_iff, List.forall₂_same]
    exact fun p inside => (each p inside).reads f 0
  have mapping := @Read.reads_mapping (f + 2) 2 .block (by decide) _ _ entries
    (by rwa [List.map_map]) fun _ => True
  rwa [List.map_map] at mapping

/-- A document of sections reads back with the same names and values. -/
theorem readValue_printMapping {parts : List Part} (more : parts ≠ [])
    (each : ∀ p ∈ parts, p.IsSection) (distinct : (parts.map Part.name).Nodup) :
    readValue 4 (printMapping (parts.map fun p => named p.entry)) =
      .ok (.map (parts.map fun p => named p.reread.entry)) := by
  have node := fun fuel => @reads_parts parts more each distinct fuel
  obtain ⟨p, others, rfl, isText, ascii⟩ := printMapping_parts more each
  have fits : ∀ t ∈ others.map Part.lines, t.IsFit := by
    intro t inside
    obtain ⟨q, isOther, rfl⟩ := List.mem_map.mp inside
    exact (each q (List.mem_cons_of_mem p isOther)).fit
  obtain ⟨tokens, isTokens, isKinds⟩ := tokens_sheet (each p List.mem_cons_self).fit fits
  rw [← isText] at isTokens
  have flat : ((p :: others).map Part.lines).flatMap SectionLines.kinds ++ [.blockEnd] =
      Read.linesKinds ((p :: others).map Part.line) := by
    unfold Read.linesKinds
    rw [List.flatMap_map, List.flatMap_map]
    congr 1
    exact List.flatMap_congr fun q _ => q.lines_kinds
  have kinds : tokens.map (·.kind) = .streamStart ::
      ((.blockMappingStart :: Read.linesKinds ((p :: others).map Part.line)) ++ [.streamEnd]) := by
    rw [isKinds, sheetKinds, ← List.map_cons, ← flat]
    simp
  obtain ⟨nodes, root, read, held⟩ := readNodes_of_tokens ascii.allowed isTokens kinds node
  exact readValue_holds read held

end HatReel.Yaml
