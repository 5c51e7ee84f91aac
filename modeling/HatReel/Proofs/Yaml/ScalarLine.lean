import HatReel.Proofs.Yaml.DoubleText
import HatReel.Proofs.Yaml.KeyLine
import HatReel.Proofs.Yaml.SingleText
import HatReel.Proofs.Yaml.Words

/-! Scalars behind a key.

However a text is written, reading it leads to the line behind it, and the token is its text. -/

namespace HatReel.Yaml

open Lexer

/-- Where a scalar stands behind a key in column `i` and the next line begins in column `k`. -/
structure Lexer.AtScalar (s : Lexer) (indent i k : Nat) (out rest : List Char) : Prop where
  isBlock : s.depth = 0
  noKey : s.keyAllowed = false
  isIndent : s.indents.head? = some i
  back : k ≤ i
  deep : i < indent
  right : i < s.cursor.column
  resumes : Resumes k rest
  here : s.cursor.rest = out ++ (newLine k ++ rest)

/-- What is written with further lines indented so far is one scalar. -/
structure ReadsAs (indent : Nat) (out : List Char) (text : ScalarText) : Prop where
  first : ∃ c more, out = c :: more ∧ isVisible c = true ∧ c ≠ '#'
  reads : ∀ {s : Lexer} {i k : Nat} {rest : List Char}, s.AtScalar indent i k out rest →
    ∃ next crossed, s.readToken =
        .ok ({ s with keyAllowed := crossed }.pushRead (.scalar text) next) ∧
      (next.rest = newLine k ++ rest ∨
        (next.rest = rest ∧ next.column = k ∧ crossed = true))

theorem saveCandidate_none {s : Lexer} (noKey : s.keyAllowed = false) :
    s.saveCandidate = .ok s := by
  unfold saveCandidate
  rw [noKey]
  rfl

/-- Where words are written one after the other, they are read as one scalar. -/
theorem readsAs_written {indent : Nat} {cs out : List Char} (plain : allowsPlain cs = true)
    (written : Written indent cs out) : ReadsAs indent out ⟨cs, true, false⟩ := by
  obtain ⟨c, visible, isFirst, isFirst'⟩ := written.head
  obtain ⟨others, rfl⟩ : ∃ others, cs = c :: others := by
    cases cs with
    | nil => cases isFirst
    | cons d others =>
        cases isFirst
        exact ⟨others, rfl⟩
  obtain ⟨more, rfl⟩ : ∃ more, out = c :: more := by
    cases out with
    | nil => cases isFirst'
    | cons d more =>
        cases isFirst'
        exact ⟨more, rfl⟩
  have begins := beginsText_of_allowsPlain plain
  have noComment : c ≠ '#' := ne_of_lead begins.noLead (by decide +kernel)
  refine ⟨⟨c, more, rfl, visible, noComment⟩, ?_⟩
  intro s i k rest place
  have begins' : BeginsText c (more ++ (newLine k ++ rest)) := by
    refine ⟨visible, begins.noLead, fun isMark => ?_⟩
    obtain ⟨d, behind, rfl, visible⟩ := begins.apart isMark
    obtain ⟨behind', isOut⟩ := written.second rfl visible
    cases isOut
    exact ⟨d, _, rfl, visible⟩
  have plain := readToken_plain begins' place.here place.isBlock
    fun isMargin => absurd isMargin (Nat.ne_of_gt (Nat.zero_lt_of_lt place.right))
  have least : (s.indents.head?.map (· + 1)).getD 0 = i.succ := by
    rw [place.isIndent]
    rfl
  obtain ⟨last, isPlain, isRest, isColumn, _⟩ := readPlain_written written place.deep
    (Nat.lt_succ_of_le place.back) place.resumes (by simpa using noComment) place.right place.here
  rw [← least] at isPlain
  refine ⟨last, true, ?_, .inr ⟨isRest, isColumn, rfl⟩⟩
  rw [plain, readPlainScalar_eq (saveCandidate_none place.noKey) place.isBlock isPlain]

theorem readToken_quote {s : Lexer} {isDouble : Bool} {rest : List Char}
    (here : s.cursor.rest = quoteMark isDouble :: rest) :
    s.readToken = s.readQuotedScalar isDouble := by
  have isQuote : s.cursor.peek = quoteMark isDouble := Cursor.peek_cons here
  have goesOn : s.cursor.rest.isEmpty = false := by
    rw [here]
    rfl
  have noMarker (d : Char) (other : quoteMark isDouble ≠ d) : s.cursor.isMarker d = false := by
    apply Cursor.isMarker_false
    rw [here]
    simpa using other
  cases isDouble with
  | true =>
      simp [readToken, isQuote, goesOn, noMarker '-' (by decide),
        noMarker '.' (by decide), quoteMark]
  | false =>
      simp [readToken, isQuote, goesOn, noMarker '-' (by decide),
        noMarker '.' (by decide), quoteMark]

theorem readsAs_quoted {indent : Nat} {isDouble : Bool} {body cs : List Char}
    (quotes : ∀ tail : List Char, tail.head? ≠ some '\x27' →
      Quotes isDouble (body ++ quoteMark isDouble :: tail) cs tail) :
    ReadsAs indent (quoteMark isDouble :: body ++ [quoteMark isDouble]) ⟨cs, false, false⟩ := by
  have visible : isVisible (quoteMark isDouble) = true := by cases isDouble <;> rfl
  have noComment : quoteMark isDouble ≠ '#' := by cases isDouble <;> decide
  refine ⟨⟨_, _, rfl, visible, noComment⟩, ?_⟩
  intro s i k rest place
  have here : s.cursor.rest =
      quoteMark isDouble :: (body ++ quoteMark isDouble :: (newLine k ++ rest)) := by
    rw [place.here, List.append_assoc, List.cons_append]
    rfl
  obtain ⟨last, reads, isTail⟩ := quotes (newLine k ++ rest) (by simp [newLine])
    (s.cursor.rest.length + 1) s.cursor.step (by rw [Cursor.rest_step, here]; rfl)
    (by rw [here, List.length_cons]; omega)
  refine ⟨last, false, ?_, .inl isTail⟩
  rw [readToken_quote here]
  unfold readQuotedScalar readQuoted
  rw [saveCandidate_none place.noKey]
  simp only [bind, Except.bind, reads]
  rfl

theorem style_plain {cs : List Char} (style : Style.of cs = .plain) :
    Tag.implied cs = .str ∧ allowsPlain cs = true ∧ cs ≠ [] := by
  cases isPlain : Tag.implied cs == .str && allowsPlain cs with
  | true =>
      simp only [Bool.and_eq_true, beq_iff_eq] at isPlain
      refine ⟨isPlain.1, isPlain.2, ?_⟩
      rintro rfl
      exact absurd isPlain.1 (by decide +kernel)
  | false =>
      rw [Style.of, isPlain] at style
      cases single : allowsSingle cs <;> simp [single] at style

theorem style_single {cs : List Char} (style : Style.of cs = .single) : IsLined cs := by
  cases single : allowsSingle cs with
  | true =>
      simp only [allowsSingle, Bool.not_eq_true', Bool.or_eq_false_iff] at single
      obtain ⟨⟨special, noIndent⟩, noTrail⟩ := single
      exact ⟨fun c inside => by simpa using List.any_eq_false.mp special c inside,
        noIndent, noTrail⟩
  | false =>
      rw [Style.of, single] at style
      cases isPlain : Tag.implied cs == .str && allowsPlain cs <;> simp [isPlain] at style

/-- Every text reads back, in whatever style it is written. -/
theorem readsAs_text {indent : Nat} (narrow : indent + 2 ≤ lineWidth) (column : Nat)
    (cs : List Char) :
    ReadsAs (indent + 1) (printText (some (indent + 1)) column cs)
      ⟨cs, Style.of cs == .plain, false⟩ := by
  unfold printText
  cases style : Style.of cs with
  | plain =>
      obtain ⟨_, plain, filled⟩ := style_plain style
      exact readsAs_written plain
        (written_of_flowing (isFlowing_of_allowsPlain filled plain) (indent + 1) column none)
  | single =>
      have lined := style_single style
      apply @readsAs_quoted _ false
      intro tail noQuote
      exact quotes_singleBody noQuote lined (column + 1) none 0 (fun spaced => absurd rfl spaced)
        fun _ => by simp
  | double =>
      apply @readsAs_quoted _ true
      intro tail _
      exact quotes_doubleBody narrow cs (column + 1) true false 0

theorem readsAs_word {indent : Nat} {cs : List Char} (filled : cs ≠ []) (word : IsWord cs)
    (plain : allowsPlain cs = true) : ReadsAs indent cs ⟨cs, true, false⟩ := by
  have noColon : cs.getLast? ≠ .some ':' := by
    simpa using word.getLast?_ne (c := ':') rfl
  exact readsAs_written plain
    (.word filled ⟨fun c inside => isVisible_word (word c inside), noColon⟩)

namespace Lexer

theorem lexes_scalar {s : Lexer} {indent i k : Nat} {indents : List Nat} {out rest : List Char}
    {text : ScalarText} (scalar : ReadsAs indent out text)
    (inLine : InLine s (i :: indents) (' ' :: (out ++ (newLine k ++ rest))))
    (noKey : s.keyAllowed = false) (back : k ≤ i) (deep : i < indent) (resumes : Resumes k rest) :
    ∃ last, Lexes s [.scalar text] last ∧ AtLine last (i :: indents) k rest := by
  obtain ⟨⟨c, more, isOut, visible, noComment⟩, reads⟩ := scalar
  have begins : Resumes 1 (out ++ (newLine k ++ rest)) := by
    intro d isFirst
    rw [isOut] at isFirst
    cases isFirst
    exact ⟨visible, noComment, fun isMargin => absurd isMargin (by decide)⟩
  have advanced := @InLine.advance s (i :: indents) 1 1 (out ++ (newLine k ++ rest)) inLine begins
  have right := inLine.right i List.mem_cons_self
  obtain ⟨next, crossed, token, isNext⟩ := reads (s := { s with
      cursor :=
        ⟨out ++ (newLine k ++ rest), s.cursor.index + 1, s.cursor.line, s.cursor.column + 1⟩ })
    ⟨inLine.isBlock, noKey, by rw [inLine.isIndents]; rfl, back, deep, Nat.lt_succ_of_lt right,
      resumes, rfl⟩
  rw [token] at advanced
  have first := Runs.advance (fresh_of_none inLine.noCandidates) inLine.isOpen
    (.inl inLine.noWaiting) advanced
  have all := first.trans (Runs.handOutAll inLine.noCandidates)
  simp only [pushRead, push, inLine.noWaiting, List.nil_append, List.map_cons, List.map_nil,
    List.length_singleton] at all
  have bound : next.rest.length ≤ (newLine k ++ rest).length := by
    cases isNext with
    | inl behind => rw [behind]
    | inr here =>
        rw [here.1, List.length_append]
        omega
  have long : s.cursor.rest.length = more.length + 2 + (newLine k ++ rest).length := by
    rw [inLine.here, isOut]
    simp only [List.length_cons, List.length_append]
    omega
  refine ⟨_, ⟨_, ?_, all⟩, ?_⟩
  · simp only
    omega
  · exact ⟨⟨inLine.isOpen, inLine.isBlock, rfl, inLine.noCandidates, inLine.isIndents⟩, isNext⟩

end Lexer

end HatReel.Yaml
