import HatReel.Proofs.Yaml.Lines
import HatReel.Yaml.Printer

/-! Keys on a line.

A key is read as a scalar first. Its colon makes a key of it, which may open a block; only then are
the tokens settled. -/

namespace HatReel.Yaml

def isKeyChar (c : Char) : Bool := (97 ≤ c.toNat && c.toNat ≤ 122) || c == '_'

/-- Names that stand before a colon as they are. -/
structure IsKey (name : List Char) : Prop where
  filled : name ≠ []
  letters : name.all isKeyChar = true
  short : name.length < keyWidth
  plain : allowsPlain name = true
  implied : Tag.implied name = .str

instance (name : List Char) : Decidable (IsKey name) :=
  decidable_of_iff (name ≠ [] ∧ name.all isKeyChar = true ∧ name.length < keyWidth ∧
      allowsPlain name = true ∧ Tag.implied name = .str)
    ⟨fun h => ⟨h.1, h.2.1, h.2.2.1, h.2.2.2.1, h.2.2.2.2⟩,
      fun h => ⟨h.filled, h.letters, h.short, h.plain, h.implied⟩⟩

namespace IsKey

variable {name : List Char}

theorem letter (isKey : IsKey name) {c : Char} (inside : c ∈ name) :
    isVisible c = true ∧ c ≠ ':' ∧ c ≠ '#' ∧ c ≠ '-' ∧ c ≠ '.' := by
  have letter := List.all_eq_true.mp isKey.letters c inside
  have differs (d : Char) (other : isKeyChar d = false) : c ≠ d := by
    rintro rfl
    rw [letter] at other
    cases other
  refine ⟨?_, differs ':' rfl, differs '#' rfl, differs '-' rfl, differs '.' rfl⟩
  simp only [isKeyChar, Bool.or_eq_true, Bool.and_eq_true, decide_eq_true_eq, beq_iff_eq,
    char_eq_iff] at letter
  have bar : '_'.toNat = 95 := rfl
  rw [isVisible_iff]
  omega

theorem resumes (isKey : IsKey name) (k : Nat) (rest : List Char) : Resumes k (name ++ rest) := by
  intro c isFirst
  cases name with
  | nil => exact absurd rfl isKey.filled
  | cons d name =>
      cases isFirst
      obtain ⟨visible, _, noComment, noDash, noPoint⟩ := isKey.letter List.mem_cons_self
      exact ⟨visible, noComment, fun _ => ⟨noDash, noPoint⟩⟩

theorem readPlain (isKey : IsKey name) {more : List Char} (ends : endsWord more = true)
    (least : Nat) {c : Cursor} (here : c.rest = name ++ ':' :: more) :
    readPlain false least c = (⟨name, true, false⟩, false,
      ⟨':' :: more, c.index + name.length, c.line, c.column + name.length⟩) := by
  have noColon : ':' ∉ name := fun inside => (isKey.letter inside).2.1 rfl
  have run : plainRun false c.rest = name := by
    rw [here]
    exact plainRun_key (fun d inside => (isKey.letter inside).1) noColon ends
  have skipped := Cursor.skip_printable here
    fun d inside => isPrintable_visible (isKey.letter inside).1
  have noComment := ((isKey.resumes 1 (':' :: more)).peek here).2.2.1
  have filled : name.isEmpty = false := List.isEmpty_eq_false_iff.mpr isKey.filled
  have stops : plainGap ⟨':' :: more, c.index + name.length, c.line, c.column + name.length⟩ =
      ⟨[], false, ⟨':' :: more, c.index + name.length, c.line, c.column + name.length⟩⟩ := rfl
  unfold Yaml.readPlain
  rw [plainFrom, run, skipped, stops]
  simp [noComment, filled]

end IsKey

namespace Lexer

/-- Where a key may begin, what is read becomes a candidate. -/
theorem saveCandidate_eq {s : Lexer} (isAllowed : s.keyAllowed = true)
    (settled : s.candidates = []) :
    s.saveCandidate = .ok { s with candidates := [(s.depth,
      ⟨s.handedOut + s.waiting.length, !s.inFlow && s.indents.head? == some s.cursor.column,
        s.mark⟩)] } := by
  have noCandidate : s.candidate? = .none := by
    unfold candidate?
    rw [settled]
    rfl
  unfold saveCandidate giveUpCandidate dropCandidate
  rw [isAllowed, noCandidate, settled]
  rfl

theorem readPlainScalar_eq {s saved : Lexer} {text : ScalarText} {crossed : Bool} {next : Cursor}
    (isSaved : s.saveCandidate = .ok saved) (isBlock : saved.depth = 0)
    (reads : readPlain false ((saved.indents.head?.map (· + 1)).getD 0) saved.cursor =
      (text, crossed, next)) :
    s.readPlainScalar =
      .ok ({ saved with keyAllowed := crossed }.pushRead (.scalar text) next) := by
  have noFlow : saved.inFlow = false := by
    unfold Lexer.inFlow
    rw [isBlock]
    rfl
  unfold readPlainScalar
  rw [isSaved]
  simp only [bind, Except.bind, noFlow, reads]
  rfl

section Key

variable {s : Lexer} {closed left : List Nat} {k : Nat} {name more : List Char}

/-- The kinds of tokens that a key in a column brings about, and the blocks that are open behind
it. -/
def keyKinds (closed left : List Nat) (k : Nat) (name : List Char) : List TokenKind :=
  closed.map (fun _ => .blockEnd) ++
    ((if left.head? = some k then [] else [.blockMappingStart]) ++
      [.key, .scalar ⟨name, true, false⟩, .value])

def keyIndents (left : List Nat) (k : Nat) : List Nat :=
  if left.head? = some k then left else k :: left

theorem length_keyIndents (left : List Nat) (k : Nat) :
    (keyIndents left k).length = left.length + if left.head? = some k then 0 else 1 := by
  unfold keyIndents
  split <;> rfl

theorem keyIndents_le (below : ∀ i ∈ left, i ≤ k) : ∀ i ∈ keyIndents left k, i ≤ k := by
  intro i inside
  unfold keyIndents at inside
  split at inside
  · exact below i inside
  · cases List.mem_cons.mp inside with
    | inl isTop => exact Nat.le_of_eq isTop
    | inr inLeft => exact below i inLeft

def behindName (s : Lexer) (left : List Nat) (stop : Cursor) (candidate : Candidate)
    (waiting : List Token) (handedOut : Nat) : Lexer :=
  { s with
    cursor := stop, keyAllowed := false, indents := left, waiting, handedOut
    candidates := [(0, candidate)] }

theorem advance_name (atLine : AtLine s (closed ++ left) k (name ++ ':' :: more))
    (isKey : IsKey name) (ends : endsWord more = true) (above : ∀ i ∈ closed, k < i)
    (below : ∀ i ∈ left, i ≤ k) :
    ∃ c stop : Cursor, ∃ isRequired, ∃ ends : List Token, c.column = k ∧
      stop = ⟨':' :: more, c.index + name.length, c.line, k + name.length⟩ ∧
      ends.map (·.kind) = closed.map (fun _ => .blockEnd) ∧
      s.advance = .ok (s.behindName left stop ⟨s.handedOut + ends.length, isRequired, c.mark⟩
        (ends ++ [⟨.scalar ⟨name, true, false⟩, c.mark, stop.mark⟩]) s.handedOut) := by
  obtain ⟨c, here, isColumn, advanced⟩ := atLine.advance (isKey.resumes k _) above below
  obtain ⟨first, others, rfl⟩ := List.exists_cons_of_ne_nil isKey.filled
  have begins : BeginsText first (others ++ ':' :: more) := by
    obtain ⟨visible, noLead, apart⟩ := beginsText_of_allowsPlain isKey.plain
    refine ⟨visible, noLead, fun isMark => ?_⟩
    obtain ⟨d, rest, rfl, visible⟩ := apart isMark
    exact ⟨d, rest ++ ':' :: more, rfl, visible⟩
  have noMark := (isKey.letter (c := first) List.mem_cons_self).2.2.2
  have plain := readToken_plain
    (s := { s with
      cursor := c, keyAllowed := true, indents := left
      waiting := closed.map fun _ => ⟨.blockEnd, c.mark, c.mark⟩ })
    begins here atLine.isBlock (fun _ => noMark)
  have saved := saveCandidate_eq
    (s := { s with
      cursor := c, keyAllowed := true, indents := left
      waiting := closed.map fun _ => ⟨.blockEnd, c.mark, c.mark⟩ })
    rfl atLine.noCandidates
  have reads := isKey.readPlain ends ((left.head?.map (· + 1)).getD 0) here
  have scalar := readPlainScalar_eq saved atLine.isBlock reads
  refine ⟨c, _, left.head? == some k, closed.map fun _ => ⟨.blockEnd, c.mark, c.mark⟩,
    isColumn, rfl,
    by rw [List.map_map]; rfl, ?_⟩
  rw [advanced, plain, scalar, isColumn]
  simp only [pushRead, push, behindName]
  rw [atLine.isBlock]
  rfl

/-- The candidate stays fresh: it is on this line, and not far behind. -/
theorem fresh_behindName {candidate : Candidate} {stop : Cursor}
    (isLine : candidate.start.line = stop.line) (near : stop.index ≤ candidate.start.index + 1024)
    (waiting : List Token) (handedOut : Nat) :
    (s.behindName left stop candidate waiting handedOut).Fresh := by
  intro e inside
  cases List.mem_singleton.mp inside
  have isNear : ¬1024 < stop.index - candidate.start.index := by omega
  simp [isStale, behindName, isLine, isNear]

theorem readToken_colon (here : s.cursor.rest = ':' :: more) (ends : endsWord more = true) :
    s.readToken = s.readColon := by
  have isColon : s.cursor.peek = ':' := Cursor.peek_cons here
  have goesOn : s.cursor.rest.isEmpty = false := by
    rw [here]
    rfl
  have noMarker (d : Char) (other : d ≠ ':') : s.cursor.isMarker d = false := by
    apply Cursor.isMarker_false
    rw [here]
    simpa using other.symm
  have isIndicator : s.isIndicator = true := by
    have isGap : isGapOrEnd (s.cursor.ahead 1) = true := by
      unfold Cursor.ahead
      rw [here, List.getElem?_cons_succ, ← List.head?_eq_getElem?, ← List.headD_eq_head?_getD]
      exact ends
    unfold Lexer.isIndicator
    rw [isGap, Bool.or_true]
  simp [readToken, isColon, goesOn, noMarker '-' (by decide), noMarker '.' (by decide), isIndicator]

theorem isDeeper_iff (below : ∀ i ∈ left, i ≤ k) (isIndents : s.indents = left) :
    s.isDeeper k = !(left.head? == some k) := by
  unfold isDeeper
  rw [isIndents]
  cases left with
  | nil => rfl
  | cons i left =>
      have bound := below i List.mem_cons_self
      rw [Bool.eq_iff_iff]
      simp
      omega

theorem settleKey_eq (below : ∀ i ∈ left, i ≤ k) (isIndents : s.indents = left)
    (isBlock : s.depth = 0) {t : Token} (isWaiting : s.waiting = [t]) {candidate : Candidate}
    (isOnly : s.candidates = [(0, candidate)]) (isNext : candidate.number = s.handedOut)
    (isColumn : candidate.start.column = k) :
    ∃ waiting : List Token, waiting.map (·.kind) =
        (if left.head? = some k then [] else [.blockMappingStart]) ++ [.key, t.kind] ∧
      s.settleKey candidate = { s with
        waiting, candidates := [], keyAllowed := false, indents := keyIndents left k } := by
  have isFirst : s.dropCandidate.insertAt candidate.number
      ⟨.key, candidate.start, candidate.start⟩ =
      { s with waiting := [⟨.key, candidate.start, candidate.start⟩, t], candidates := [] } := by
    unfold insertAt dropCandidate
    simp only [isOnly, isBlock, isNext, Nat.sub_self, isWaiting]
    rfl
  have deeper : Lexer.isDeeper
      { s with waiting := [⟨.key, candidate.start, candidate.start⟩, t], candidates := [] } k =
        !(left.head? == some k) := isDeeper_iff below isIndents
  have noFlow : Lexer.inFlow
      { s with waiting := [⟨.key, candidate.start, candidate.start⟩, t], candidates := [] } =
        false := by
    unfold Lexer.inFlow
    rw [isBlock]
    rfl
  unfold settleKey keyIndents
  simp only [isFirst, isColumn, deeper, noFlow]
  by_cases same : left.head? = some k
  · refine ⟨[⟨.key, candidate.start, candidate.start⟩, t], by rw [if_pos same]; rfl, ?_⟩
    simp [same, isIndents]
  · refine ⟨[⟨.blockMappingStart, candidate.start, candidate.start⟩,
      ⟨.key, candidate.start, candidate.start⟩, t], by rw [if_neg same]; rfl, ?_⟩
    simp [same, isIndents, insertAt, isNext]

/-- The colon behind a key settles its tokens. -/
theorem advance_colon (below : ∀ i ∈ left, i ≤ k) (isIndents : s.indents = left)
    (isBlock : s.depth = 0) {t : Token} (isWaiting : s.waiting = [t]) {candidate : Candidate}
    (isOnly : s.candidates = [(0, candidate)]) (isNext : candidate.number = s.handedOut)
    (isColumn : candidate.start.column = k) (fresh : s.Fresh) (right : k < s.cursor.column)
    (here : s.cursor.rest = ':' :: more) (ends : endsWord more = true) :
    ∃ waiting : List Token, waiting.map (·.kind) =
        (if left.head? = some k then [] else [.blockMappingStart]) ++ [.key, t.kind, .value] ∧
      s.advance = .ok { s with
        cursor := s.cursor.step, waiting, candidates := [], keyAllowed := false
        indents := keyIndents left k } := by
  have resumes : Resumes 1 (':' :: more) := by
    intro c isFirst
    cases isFirst
    exact ⟨rfl, by decide, fun isMargin => absurd isMargin (by decide)⟩
  have skipped := skipGaps_blanks resumes 0 s.cursor.rest.length here
  have stays : s.skipGaps (s.cursor.rest.length + 1) = s := by
    rw [skipped, ← here]
    rfl
  have closes := closeBlocks_split (p := fun i => decide (s.cursor.column < i)) [] left
    isBlock isIndents (fun i inside => absurd inside List.not_mem_nil)
    (fun i inside => decide_eq_false fun less => by
      have bound := below i inside
      omega)
  have unclosed : s.closeBlocks (fun i => decide (s.cursor.column < i)) = s := by
    rw [closes, List.map_nil, List.append_nil, ← isIndents]
  obtain ⟨waiting, kinds, settled⟩ :=
    settleKey_eq below isIndents isBlock isWaiting isOnly isNext isColumn
  have found : s.candidate? = some candidate := by
    unfold candidate?
    rw [isOnly, isBlock]
    rfl
  have noMark : s.cursor.peek ≠ '\ufeff' := by
    rw [Cursor.peek_cons here]
    decide
  refine ⟨waiting ++ [⟨.value, s.mark, s.cursor.step.mark⟩], ?_, ?_⟩
  · rw [List.map_append, kinds, List.append_assoc]
    rfl
  · unfold advance
    rw [skipOrderMark_eq noMark, stays, fresh.dropStale]
    simp only [bind, Except.bind]
    rw [unclosed, readToken_colon here ends]
    unfold readColon
    rw [found]
    simp only [settled]
    rfl

theorem lexes_key (atLine : AtLine s (closed ++ left) k (name ++ ':' :: more)) (isKey : IsKey name)
    (ends : endsWord more = true) (above : ∀ i ∈ closed, k < i) (below : ∀ i ∈ left, i ≤ k) :
    ∃ last, Lexes s (keyKinds closed left k name) last ∧ InLine last (keyIndents left k) more ∧
      last.keyAllowed = false := by
  obtain ⟨c, stop, isRequired, closes, isColumn, isStop, isClosing, named⟩ :=
    advance_name atLine isKey ends above below
  have near : stop.index ≤ c.mark.index + 1024 := by
    have short := isKey.short
    unfold keyWidth at short
    rw [isStop]
    simp only [Cursor.mark]
    omega
  have isLine : c.mark.line = stop.line := by
    rw [isStop]
    rfl
  have fresh := @fresh_behindName s left ⟨s.handedOut + closes.length, isRequired, c.mark⟩ stop
    isLine near
  obtain ⟨waiting, kinds, settled⟩ := advance_colon
    (s := s.behindName left stop ⟨s.handedOut + closes.length, isRequired, c.mark⟩
      [⟨.scalar ⟨name, true, false⟩, c.mark, stop.mark⟩] (s.handedOut + closes.length))
    below rfl atLine.isBlock rfl rfl rfl isColumn (fresh _ _)
    (by
      rw [behindName, isStop]
      exact Nat.lt_add_of_pos_right (List.length_pos_iff.mpr isKey.filled))
    (by rw [behindName, isStop]) ends
  have first := Runs.advance (fresh_of_none atLine.noCandidates) atLine.isOpen
    (.inl atLine.noWaiting) named
  have second := Runs.handOutFirst (fresh _ s.handedOut) closes
      [⟨.scalar ⟨name, true, false⟩, c.mark, stop.mark⟩] rfl fun e inside => by
    cases List.mem_singleton.mp inside
    exact Nat.le_refl _
  have third := Runs.advance (fresh _ _) atLine.isOpen
    (.inr ⟨_, List.mem_singleton_self _, rfl⟩) settled
  have all := ((first.trans second).trans third).trans (Runs.handOutAll rfl)
  have isKinds : [] ++ closes.map (·.kind) ++ [] ++ waiting.map (·.kind) =
      keyKinds closed left k name := by
    rw [isClosing, kinds, List.nil_append, List.append_nil]
    rfl
  rw [isKinds] at all
  have behind : stop.step.rest = more := by
    rw [Cursor.rest_step, isStop]
    rfl
  refine ⟨_, ⟨_, ?_, all⟩, ⟨⟨atLine.isOpen, atLine.isBlock, rfl, rfl, rfl⟩, behind, ?_⟩, rfl⟩
  · have few : waiting.length = (if left.head? = some k then 0 else 1) + 3 := by
      have lengths := congrArg List.length kinds
      rw [List.length_map] at lengths
      rw [lengths]
      split <;> rfl
    have closing : closes.length = closed.length := by
      have lengths := congrArg List.length isClosing
      rwa [List.length_map, List.length_map] at lengths
    have one : (if left.head? = some k then 0 else 1) ≤ 1 := by split <;> decide
    have bound := atLine.length_le
    have positive := List.length_pos_iff.mpr isKey.filled
    simp only [List.length_append, List.length_cons] at bound
    simp only [behindName, behind, atLine.isIndents, List.length_append, length_keyIndents, few,
      closing]
    omega
  · intro i inside
    have isStep : stop.step.column = k + name.length + 1 := by
      rw [isStop, Cursor.step_printable rfl rfl]
    have bound := keyIndents_le below i inside
    change i < stop.step.column
    rw [isStep]
    omega

end Key

end Lexer

end HatReel.Yaml
