import HatReel.Proofs.Command.Effective

/-! Why a command line is refused.

Reading goes word by word and fails where an option is unknown, or lacks a value, or has one that it
does not take. What is read holds options of the grammar only, and then each option may refuse its
value. -/

namespace HatReel.Command

open HatReel.Decimal HatReel.Text

/-- A result that is as one says, or a fault that is. -/
def Yields {ε α : Type} (P : ε → Prop) (Q : α → Prop) : Except ε α → Prop
  | .ok a => Q a
  | .error e => P e

theorem yields_bind {ε α β : Type} {P : ε → Prop} {Q : α → Prop} {R : β → Prop} {x : Except ε α}
    {f : α → Except ε β} (first : Yields P Q x) (rest : ∀ a, Q a → Yields P R (f a)) :
    Yields P R (x >>= f) := by
  cases x with
  | ok a => exact rest a first
  | error e => exact first

theorem yields_mapM {ε α β : Type} {P : ε → Prop} {f : α → Except ε β} {l : List α}
    (each : ∀ a ∈ l, Yields P (fun _ => True) (f a)) : Yields P (fun _ => True) (l.mapM f) := by
  induction l with
  | nil => exact trivial
  | cons a l ih =>
      rw [List.mapM_cons]
      apply yields_bind (each a List.mem_cons_self)
      intro _ _
      apply yields_bind (ih fun b inside => each b (List.mem_cons_of_mem a inside))
      intro _ _
      exact trivial

inductive Misfit : UsageFault → Prop where
  | unknown (name : String) (close : List String) : Misfit (.noSwitch name close)
  | lacking (name : String) : Misfit (.noValue name)
  | surplus (name : String) : Misfit (.surplusValue name)

section

variable (g : Grammar)

def Known (switches : List (Switch × Option String)) : Prop := ∀ e ∈ switches, e.1 ∈ g.switches

variable {g}

theorem known_cons {s : Switch} {raw : Option String} {switches : List (Switch × Option String)}
    (first : s ∈ g.switches) (rest : Known g switches) : Known g ((s, raw) :: switches) := by
  intro e member
  rcases List.mem_cons.mp member with rfl | later
  · exact first
  · exact rest e later

theorem known_single {s : Switch} {raw : Option String} (inside : s ∈ g.switches) :
    Known g [(s, raw)] := known_cons inside (by simp [Known])

theorem yields_nextValue (name : String) (words : List String) :
    Yields Misfit (fun _ => True) (nextValue name words) := by
  cases words with
  | nil => exact .lacking name
  | cons word rest => exact trivial

theorem yields_readLetters (rest : List String) (letters : List Char) :
    Yields Misfit (fun r => Known g r.1) (readLetters g rest letters) := by
  induction letters with
  | nil => simp [readLetters, Yields, Known]
  | cons c more ih =>
      unfold readLetters
      dsimp only
      cases found : g.letter? c with
      | none => exact .unknown _ _
      | some s =>
          have inside : s ∈ g.switches := List.mem_of_find?_eq_some found
          dsimp only
          split
          · split
            · apply yields_bind (yields_nextValue _ _)
              intro _ _
              exact known_single inside
            · exact known_single inside
          · apply yields_bind ih
            intro r known
            exact known_cons inside known

theorem yields_readSwitch (word : List Char) (rest : List String) :
    Yields Misfit (fun r => Known g r.1) (readSwitch g word rest) := by
  unfold readSwitch
  dsimp only
  split
  · next s found =>
    have inside : s ∈ g.switches := List.mem_of_find?_eq_some found
    split
    · split
      · exact known_single inside
      · apply yields_bind (yields_nextValue _ _)
        intro _ _
        exact known_single inside
    · split
      · exact .surplus _
      · exact known_single inside
  · split
    · exact .unknown _ _
    · exact yields_readLetters rest word.tail

theorem yields_readWords (fuel : Nat) (words : List String) :
    Yields Misfit (fun r => Known g r.switches) (readWords g fuel words) := by
  induction fuel generalizing words with
  | zero => simp [readWords, Yields, Known]
  | succ fuel ih =>
      cases words with
      | nil => simp [readWords, Yields, Known]
      | cons word rest =>
          unfold readWords
          split
          · simp [pure, Except.pure, Yields, Known]
          · split
            · apply yields_bind (yields_readSwitch word.toList rest)
              rintro ⟨switches, rest⟩ known
              apply yields_bind (ih rest)
              intro more later e member
              rcases List.mem_append.mp member with first | second
              · exact known e first
              · exact later e second
            · split
              · apply yields_bind (ih rest)
                intro more later
                exact later
              · simp [pure, Except.pure, Yields, Known]

end

inductive Refused : UsageFault → Prop where
  | misfit {fault : UsageFault} (is : Misfit fault) : Refused fault
  | extra (words : List String) : Refused (.surplusWords words)
  | maxFrames (value : String) (noNumber : ∀ n, readInteger 10 value.toList ≠ .ok n) :
      Refused (.notInRange "--max-frames" value)
  | tooFew (n : Int) (few : n < 1) : Refused (.tooSmall "--max-frames" n 1)
  | seed (value : String) (noNumber : ∀ n, readInteger 10 value.toList ≠ .ok n) :
      Refused (.notWhole "--seed" value)
  | level (value : String) (noLevel : String.ofList (fold value.toList) ∉ levelWords) :
      Refused (.notChoice "--log-level" value levelWords)

theorem yields_maxFrames (value : String) :
    Yields Refused (fun _ => True) (maxFramesSwitch.read (some value)) := by
  simp only [maxFramesSwitch, Switch.read]
  cases reads : readInteger 10 value.toList with
  | error fault =>
      apply Refused.maxFrames value
      intro n never
      rw [reads] at never
      cases never
  | ok n =>
      dsimp only
      split
      · next few => exact .tooFew n few
      · trivial

theorem yields_seed (value : String) :
    Yields Refused (fun _ => True) (seedSwitch.read (some value)) := by
  simp only [seedSwitch, Switch.read]
  cases reads : readInteger 10 value.toList with
  | error fault =>
      apply Refused.seed value
      intro n never
      rw [reads] at never
      cases never
  | ok n => trivial

theorem yields_level (value : String) :
    Yields Refused (fun _ => True) (levelSwitch.read (some value)) := by
  simp only [levelSwitch, Switch.read]
  split
  · trivial
  · next other => exact .level value (by simpa using other)

theorem yields_value {s : Switch} (inside : s ∈ runGrammar.switches) (raw : Option String) :
    Yields Refused (fun _ => True) (s.read raw) := by
  cases raw with
  | none =>
      have bare : s.read none = .ok .present := by
        unfold Switch.read
        split <;> first | rfl | contradiction
      rw [bare]
      trivial
  | some value =>
      rw [runGrammar_switches] at inside
      simp only [List.mem_cons, List.not_mem_nil, or_false] at inside
      rcases inside with rfl | rfl | rfl | rfl | rfl | rfl | rfl | rfl
      · trivial
      · trivial
      · trivial
      · exact yields_maxFrames value
      · trivial
      · exact yields_seed value
      · exact yields_level value
      · trivial

theorem Yields.weaken {ε α : Type} {P P' : ε → Prop} {Q : α → Prop} {x : Except ε α}
    (yields : Yields P Q x) (weaker : ∀ e, P e → P' e) : Yields P' Q x := by
  cases x with
  | ok a => exact yields
  | error e => exact weaker e yields

/-- A command line of a run that is refused is refused for one of these reasons. -/
theorem read_refused {line : List String} {fault : UsageFault}
    (refuses : runGrammar.read line = .error fault) : Refused fault := by
  have all : Yields Refused (fun _ => True) (runGrammar.read line) := by
    unfold Grammar.read
    apply yields_bind ((yields_readWords line.length line).weaken fun _ => .misfit)
    intro words known
    dsimp only
    split
    · split <;> trivial
    · apply yields_bind
      · apply yields_mapM
        intro s member
        obtain ⟨raw, last⟩ := mem_distinct.mp member
        apply yields_bind (yields_value (known _ (lastGiven_mem last)) _)
        intro _ _
        trivial
      · intro values _
        rw [show runGrammar.argument.isSome = true from rfl, if_pos rfl]
        split
        · exact Refused.extra _
        · trivial
  rw [refuses] at all
  exact all

end HatReel.Command
