import Mathlib.Data.List.Basic
import HatReel.Rig.Act
import HatReel.Rig.World

/-! Diaries of an object that is used again and again.

Between two uses the world may become any other one: its devices may change their minds, and its
files and its logging may be changed. A diary has an entry for each use: the task, the object and
the world before it, and everything that came of it. What every use keeps up of the diary so far and
the object then holds after any sequence of turns. -/

namespace HatReel.Rig

section Since

variable {ε : Type} {P Q : ε → Prop} {t u : List ε} {e : ε}

/-- Something in the list is a `P`, and nothing after it is a `Q`. -/
def Since (P Q : ε → Prop) (t : List ε) : Prop :=
  ∃ before e after, t = before ++ e :: after ∧ P e ∧ ∀ f ∈ after, ¬ Q f

theorem since_nil : ¬ Since P Q [] := by
  rintro ⟨before, e, after, split, -⟩
  simp at split

theorem since_concat : Since P Q (t ++ [e]) ↔ P e ∨ Since P Q t ∧ ¬ Q e := by
  constructor
  · rintro ⟨before, first, after, split, isP, noQ⟩
    -- The last entry is the one that was found, or it is the last of those after it.
    rcases List.eq_nil_or_concat' after with rfl | ⟨rest, last, rfl⟩
    · obtain ⟨-, rfl⟩ : t = before ∧ e = first := by simpa using split
      exact .inl isP
    · rw [← List.cons_append, ← List.append_assoc] at split
      obtain ⟨rfl, same⟩ := List.append_inj' split rfl
      cases same
      refine .inr ⟨⟨before, first, rest, rfl, isP, fun f member => noQ f ?_⟩, noQ e ?_⟩
      · exact List.mem_append_left _ member
      · exact List.mem_append_right _ List.mem_cons_self
  · rintro (isP | ⟨⟨before, first, after, rfl, isP, noQ⟩, notQ⟩)
    · exact ⟨t, e, [], rfl, isP, by simp⟩
    · refine ⟨before, first, after ++ [e], by simp, isP, fun f member => ?_⟩
      rcases List.mem_append.mp member with old | new
      · exact noQ f old
      · rwa [List.mem_singleton.mp new]

theorem Since.append (since : Since P Q t) (noQ : ∀ f ∈ u, ¬ Q f) : Since P Q (t ++ u) := by
  obtain ⟨before, first, after, rfl, isP, free⟩ := since
  refine ⟨before, first, after ++ u, by simp, isP, fun f member => ?_⟩
  rcases List.mem_append.mp member with old | new
  · exact free f old
  · exact noQ f new

/-- Before every `Q` of the list there is a `P`, and between the two there is no `Q`. -/
def Preceded (P Q : ε → Prop) (t : List ε) : Prop :=
  ∀ before e after, t = before ++ e :: after → Q e → Since P Q before

theorem preceded_nil : Preceded P Q [] := by
  intro before e after split
  simp at split

theorem Preceded.concat (preceded : Preceded P Q t) (since : Q e → Since P Q t) :
    Preceded P Q (t ++ [e]) := by
  intro before first after split isQ
  rcases List.eq_nil_or_concat' after with rfl | ⟨rest, last, rfl⟩
  · obtain ⟨rfl, rfl⟩ : t = before ∧ e = first := by simpa using split
    exact since isQ
  · rw [← List.cons_append, ← List.append_assoc] at split
    obtain ⟨rfl, -⟩ := List.append_inj' split rfl
    exact preceded before first rest rfl isQ

theorem Preceded.append (preceded : Preceded P Q t) (noQ : ∀ f ∈ u, ¬ Q f) :
    Preceded P Q (t ++ u) := by
  induction u generalizing t with
  | nil => rwa [List.append_nil]
  | cons e rest ih =>
      rw [← List.singleton_append, ← List.append_assoc]
      have first : ¬ Q e := noQ e List.mem_cons_self
      exact ih (preceded.concat fun isQ => absurd isQ first)
        fun f member => noQ f (List.mem_cons_of_mem e member)

end Since

variable {ι τ α : Type}

/-- What the world does on its own before the next use, and the use. -/
structure Turn (ι : Type) where
  meanwhile : World → World := id
  task : ι

structure Entry (ι τ α : Type) where
  task : ι
  before : τ × World
  ran : Ran (τ × World) α

def entry (act : ι → Act (τ × World) α) (task : ι) (s : τ × World) : Entry ι τ α :=
  ⟨task, s, act task s⟩

/-- The entries of one turn after the other; a use that fails is followed by the next one all the
same. -/
def diary (act : ι → Act (τ × World) α) : List (Turn ι) → τ × World → List (Entry ι τ α)
  | [], _ => []
  | turn :: rest, s =>
    entry act turn.task (s.1, turn.meanwhile s.2) ::
      diary act rest (act turn.task (s.1, turn.meanwhile s.2)).state

def leaves (act : ι → Act (τ × World) α) : List (Turn ι) → τ × World → τ × World
  | [], s => s
  | turn :: rest, s => leaves act rest (act turn.task (s.1, turn.meanwhile s.2)).state

def eventsOf (entries : List (Entry ι τ α)) : List Event := entries.flatMap (·.ran.trace)

@[simp] theorem eventsOf_nil : eventsOf ([] : List (Entry ι τ α)) = [] := rfl

@[simp] theorem eventsOf_concat (past : List (Entry ι τ α)) (e : Entry ι τ α) :
    eventsOf (past ++ [e]) = eventsOf past ++ e.ran.trace := by
  simp [eventsOf]

/-- What each use keeps up, whatever the world is like by then, all turns keep up. -/
theorem diary_keeps {act : ι → Act (τ × World) α} {I : List (Entry ι τ α) → τ → Prop}
    (step : ∀ past task object w, I past object →
      I (past ++ [entry act task (object, w)]) (act task (object, w)).state.1)
    (turns : List (Turn ι)) {past : List (Entry ι τ α)} {s : τ × World} (start : I past s.1) :
    I (past ++ diary act turns s) (leaves act turns s).1 := by
  induction turns generalizing past s with
  | nil => rwa [diary, List.append_nil]
  | cons turn rest ih =>
      rw [diary, leaves, ← List.singleton_append, ← List.append_assoc]
      exact ih (step past turn.task s.1 (turn.meanwhile s.2) start)

theorem diary_holds {act : ι → Act (τ × World) α} {I : List (Entry ι τ α) → τ → Prop}
    (step : ∀ past task object w, I past object →
      I (past ++ [entry act task (object, w)]) (act task (object, w)).state.1)
    (turns : List (Turn ι)) {s : τ × World} (start : I [] s.1) :
    I (diary act turns s) (leaves act turns s).1 := by
  have kept := diary_keeps step turns start
  rwa [List.nil_append] at kept

end HatReel.Rig
