import HatReel.Proofs.Yaml.PlainScalar
import HatReel.Yaml.Lexer

/-! Runs of the lexer, step by step.

A step reads what comes next or hands out a token. A run that hands out some tokens goes on as a run
from the state that it has led to. -/

namespace HatReel.Yaml.Lexer

/-- So many steps hand out tokens of these kinds and lead to another state. -/
def Runs (n : Nat) (s : Lexer) (kinds : List TokenKind) (last : Lexer) : Prop :=
  ∃ tokens : List Token, tokens.map (·.kind) = kinds ∧
    ∀ m, s.run (n + m) = (tokens ++ (last.run m).1, (last.run m).2)

section Runs

variable {m n : Nat} {s next last : Lexer} {kinds others : List TokenKind}

theorem Runs.refl (s : Lexer) : Runs 0 s [] s :=
  ⟨[], rfl, fun m => by rw [Nat.zero_add, List.nil_append]⟩

theorem Runs.of_eq (runs : Runs n s kinds last) (same : kinds = others) : Runs n s others last :=
  same ▸ runs

theorem Runs.trans (one : Runs n s kinds next) (other : Runs m next others last) :
    Runs (n + m) s (kinds ++ others) last := by
  obtain ⟨tokens, isKinds, first⟩ := one
  obtain ⟨tokens', isKinds', second⟩ := other
  refine ⟨tokens ++ tokens', by rw [List.map_append, isKinds, isKinds'], ?_⟩
  intro k
  rw [Nat.add_assoc, first, second, List.append_assoc]

def Fresh (s : Lexer) : Prop := ∀ e ∈ s.candidates, s.isStale e.2 = false

theorem Fresh.dropStale (fresh : s.Fresh) : s.dropStale = .ok s := by
  have noFault : (s.candidates.any fun e => s.isStale e.2 && e.2.isRequired) = false := by
    rw [List.any_eq_false]
    intro e inside
    rw [fresh e inside]
    exact Bool.false_ne_true
  have all : (s.candidates.filter fun e => !s.isStale e.2) = s.candidates := by
    rw [List.filter_eq_self]
    intro e inside
    rw [fresh e inside]
    rfl
  unfold Lexer.dropStale
  rw [noFault, all]
  rfl

theorem Fresh.refresh (fresh : s.Fresh) : s.refresh = .ok s := by
  unfold Lexer.refresh
  split
  · rfl
  · exact fresh.dropStale

theorem fresh_of_none (settled : s.candidates = []) : s.Fresh := by
  intro e inside
  rw [settled] at inside
  cases inside

theorem Runs.advance (fresh : s.Fresh) (isOpen : s.isClosed = false)
    (more : s.waiting = [] ∨ ∃ e ∈ s.candidates, e.2.number = s.handedOut)
    (reads : s.advance = .ok next) : Runs 1 s [] next := by
  have needs : s.needsMore = true := by
    unfold needsMore
    rw [isOpen]
    cases more with
    | inl empty => simp [empty]
    | inr required =>
        obtain ⟨e, inside, isNext⟩ := required
        have found : (s.candidates.any fun e => e.2.number == s.handedOut) = true :=
          List.any_eq_true.mpr ⟨e, inside, beq_iff_eq.mpr isNext⟩
        simp [found]
  have stepped : s.step = .ok (.read next) := by
    unfold step
    rw [fresh.refresh]
    simp only [bind, Except.bind, needs, if_true, reads]
    rfl
  refine ⟨[], rfl, ?_⟩
  intro m
  rw [Nat.add_comm, run, stepped]
  rfl

def handOut (s : Lexer) : Lexer :=
  { s with waiting := s.waiting.tail, handedOut := s.handedOut + 1 }

theorem Runs.handOut {t : Token} {waiting : List Token} (fresh : s.Fresh)
    (isNext : s.waiting = t :: waiting)
    (settled : s.isClosed = true ∨ ∀ e ∈ s.candidates, e.2.number ≠ s.handedOut) :
    Runs 1 s [t.kind] s.handOut := by
  have noNeed : s.needsMore = false := by
    unfold needsMore
    cases settled with
    | inl isClosed => simp [isClosed]
    | inr others =>
        have noNext : (s.candidates.any fun e => e.2.number == s.handedOut) = false := by
          rw [List.any_eq_false]
          intro e inside isNext
          exact others e inside (beq_iff_eq.mp isNext)
        simp [noNext, isNext]
  have stepped : s.step = .ok (.handOut t s.handOut) := by
    unfold step Lexer.handOut
    rw [fresh.refresh]
    simp only [bind, Except.bind, noNeed, Bool.false_eq_true, if_false, isNext]
    rfl
  refine ⟨[t], rfl, ?_⟩
  intro m
  rw [Nat.add_comm, run, stepped]
  rfl

theorem Runs.handOutFirst (fresh : s.Fresh) (tokens waiting : List Token)
    (isWaiting : s.waiting = tokens ++ waiting)
    (later : ∀ e ∈ s.candidates, s.handedOut + tokens.length ≤ e.2.number) :
    Runs tokens.length s (tokens.map (·.kind))
      { s with waiting := waiting, handedOut := s.handedOut + tokens.length } := by
  induction tokens generalizing s with
  | nil =>
      cases s
      cases isWaiting
      exact Runs.refl _
  | cons t tokens ih =>
      have first := Runs.handOut fresh isWaiting (.inr fun e inside isNext => by
        have bound := later e inside
        rw [List.length_cons] at bound
        omega)
      have rest := ih (s := s.handOut) fresh (by rw [Lexer.handOut, isWaiting]; rfl)
        fun e inside => by
          have bound := later e inside
          rw [List.length_cons] at bound
          simp only [Lexer.handOut]
          omega
      have both := first.trans rest
      rw [Nat.add_comm] at both
      simpa [Lexer.handOut, Nat.add_assoc, Nat.add_comm 1] using both

/-- Hands out all tokens that wait, when there is no candidate. -/
theorem Runs.handOutAll (settled : s.candidates = []) :
    Runs s.waiting.length s (s.waiting.map (·.kind))
      { s with waiting := [], handedOut := s.handedOut + s.waiting.length } := by
  apply Runs.handOutFirst (fresh_of_none settled) s.waiting [] (List.append_nil s.waiting).symm
  intro e inside
  rw [settled] at inside
  cases inside

theorem Runs.ofRefresh (refreshed : s.refresh = .ok next) (fresh : next.Fresh)
    (runs : Runs (n + 1) next kinds last) : Runs (n + 1) s kinds last := by
  obtain ⟨tokens, isKinds, goesOn⟩ := runs
  have same : s.step = next.step := by
    unfold step
    rw [refreshed, fresh.refresh]
  refine ⟨tokens, isKinds, ?_⟩
  intro m
  rw [← goesOn, Nat.add_right_comm, run, run, same]

/-- A token is handed out although a candidate stands before it, once that is stale. -/
theorem Runs.handOutStale {t : Token} {depth : Nat} {candidate : Candidate}
    (isOpen : s.isClosed = false) (isWaiting : s.waiting = [t])
    (isOnly : s.candidates = [(depth, candidate)])
    (stale : s.isStale candidate = true) (free : candidate.isRequired = false) :
    Runs 1 s [t.kind] { s with waiting := [], candidates := [], handedOut := s.handedOut + 1 } := by
  have refreshed : s.refresh = .ok { s with candidates := [] } := by
    unfold Lexer.refresh dropStale
    rw [isOpen, isWaiting, isOnly]
    simp [stale, free]
  have handed := Runs.handOutFirst (s := { s with candidates := [] }) (fresh_of_none rfl) [t] []
    isWaiting fun e inside => absurd inside List.not_mem_nil
  exact Runs.ofRefresh refreshed (fresh_of_none rfl) handed

end Runs

theorem run_closed {s : Lexer} (isClosed : s.isClosed = true) (noneLeft : s.waiting = [])
    (m : Nat) :
    s.run m = ([], Option.none) := by
  cases m with
  | zero => rfl
  | succ m =>
      have stepped : s.step = .ok .done := by
        have refreshed : s.refresh = .ok s := by
          unfold Lexer.refresh
          rw [isClosed]
          rfl
        unfold step needsMore
        rw [refreshed]
        simp only [bind, Except.bind, isClosed, noneLeft]
        rfl
      rw [run, stepped]

/-- A run with at most eight steps for each character that is read, and one for each block that is
closed. -/
def Lexes (s : Lexer) (kinds : List TokenKind) (last : Lexer) : Prop :=
  ∃ n, n + 8 * last.cursor.rest.length + last.indents.length ≤
    8 * s.cursor.rest.length + s.indents.length ∧ Runs n s kinds last

theorem Lexes.trans {s next last : Lexer} {kinds others : List TokenKind}
    (one : Lexes s kinds next) (other : Lexes next others last) :
    Lexes s (kinds ++ others) last := by
  obtain ⟨n, few, first⟩ := one
  obtain ⟨m, few', second⟩ := other
  exact ⟨n + m, by omega, first.trans second⟩

end HatReel.Yaml.Lexer
