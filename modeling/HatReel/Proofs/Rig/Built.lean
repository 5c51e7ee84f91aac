import HatReel.Proofs.Rig.Pairs

/-! Steps that are put together from basic ones.

How a step is put together is gone through once for each step; whatever all basic steps keep, the
step keeps. Of the state such a step looks at a view only, so that it goes the same way from two
states that share the view and are related by a relation that every basic step respects. -/

namespace HatReel.Rig.Act

variable {σ τ ν μ α β : Type}

/-- From states that have a property, `x` leaves states that have it, and ends with certain faults
only if it ends with one. -/
def Stays (I : σ → Prop) (P : Fault → Prop) (x : Act σ α) : Prop :=
  ∀ s, I s → I (x s).state ∧ ∀ fault, (x s).answer = .error fault → P fault

section

variable {I : σ → Prop} {P : Fault → Prop}

theorem stays_pure (a : α) : Stays I P (pure a : Act σ α) := by
  intro s inside
  exact ⟨inside, fun _ never => nomatch never⟩

theorem stays_fail {fault : Fault} (allowed : P fault) : Stays I P (fail fault : Act σ α) := by
  intro s inside
  refine ⟨inside, fun other same => ?_⟩
  cases same
  exact allowed

theorem stays_bind {x : Act σ α} {f : α → Act σ β} (first : Stays I P x)
    (rest : ∀ a, Stays I P (f a)) : Stays I P (x >>= f) := by
  intro s inside
  have start := first s inside
  rcases step : x s with ⟨answer, next, t⟩
  rw [step] at start
  cases answer with
  | error fault =>
      rw [bind_of_error f step]
      exact ⟨start.1, fun other same => start.2 other (by cases same; rfl)⟩
  | ok a =>
      rw [bind_of_ok f step]
      exact rest a next start.1

theorem stays_get : Stays I P (get : Act σ σ) := by
  intro s inside
  exact ⟨inside, fun _ never => nomatch never⟩

theorem stays_ensuring {x : Act σ α} {cleanup : Act σ Unit} (first : Stays I P x)
    (last : Stays I P cleanup) : Stays I P (ensuring x cleanup) := by
  intro s inside
  have start := first s inside
  have finish := last (x s).state start.1
  unfold ensuring
  rcases clean : cleanup (x s).state with ⟨_ | _, final, t⟩ <;> rw [clean] at finish <;>
    simp only [clean]
  · exact ⟨finish.1, fun other same => finish.2 other (by cases same; rfl)⟩
  · exact ⟨finish.1, start.2⟩

theorem stays_recover {x : Act σ α} {f : Fault → Act σ α} (first : Stays I P x)
    (rest : ∀ fault, P fault → Stays I P (f fault)) : Stays I P (recover x f) := by
  intro s inside
  have start := first s inside
  rcases step : x s with ⟨answer, next, t⟩
  rw [step] at start
  cases answer with
  | ok a =>
      rw [recover_ok f step]
      exact ⟨start.1, fun _ never => nomatch never⟩
  | error fault =>
      rw [recover_error step rfl]
      exact rest fault (start.2 fault rfl) next start.1

end

/-- A step that is put together from basic steps and looks at a view of the state. -/
inductive Built (view : σ → ν) (basic : (α : Type) → Act σ α → Prop) :
    {α : Type} → Act σ α → Prop where
  | basic {α : Type} {x : Act σ α} (is : basic α x) : Built view basic x
  | pure {α : Type} (a : α) : Built view basic (pure a)
  | bind {α β : Type} {x : Act σ α} {f : α → Act σ β} (first : Built view basic x)
      (rest : ∀ a, Built view basic (f a)) : Built view basic (x >>= f)
  | look {β : Type} {f : σ → Act σ β} (depends : ∀ s t, view s = view t → f s = f t)
      (rest : ∀ s, Built view basic (f s)) : Built view basic (get >>= f)
  | ensuring {α : Type} {x : Act σ α} {cleanup : Act σ Unit} (first : Built view basic x)
      (last : Built view basic cleanup) : Built view basic (ensuring x cleanup)
  | recover {α : Type} {x : Act σ α} {f : Fault → Act σ α} (first : Built view basic x)
      (rest : ∀ fault, Built view basic (f fault)) : Built view basic (recover x f)

namespace Built

variable {view : σ → ν} {basic : (α : Type) → Act σ α → Prop}

/-- A step that is built from others is built from what they are built from, if no less is seen of
the state. -/
theorem trans {finer : σ → μ} {more : (α : Type) → Act σ α → Prop} {x : Act σ α}
    (built : Built view basic x) (sees : ∀ s t, finer s = finer t → view s = view t)
    (each : ∀ (α : Type) (x : Act σ α), basic α x → Built finer more x) : Built finer more x := by
  induction built with
  | basic is => exact each _ _ is
  | pure a => exact .pure a
  | bind _ _ first rest => exact .bind first rest
  | look depends _ rest => exact .look (fun s t same => depends s t (sees s t same)) rest
  | ensuring _ _ first last => exact .ensuring first last
  | recover _ _ first rest => exact .recover first rest

theorem obeys {R : σ → List Event → σ → Prop} {x : Act σ α} (built : Built view basic x)
    (joins : Joins R) (each : ∀ (α : Type) (x : Act σ α), basic α x → Obeys R x) : Obeys R x := by
  induction built with
  | basic is => exact each _ _ is
  | pure a => exact obeys_pure joins a
  | bind _ _ first rest => exact obeys_bind joins first rest
  | look _ _ rest => exact obeys_bind joins (obeys_get joins) rest
  | ensuring _ _ first last => exact obeys_ensuring joins first last
  | recover _ _ first rest => exact obeys_recover joins first rest

theorem agrees {watch : Event → Bool} {R : σ → σ → Prop} {x : Act σ α}
    (built : Built view basic x) (same : ∀ s t, R s t → view s = view t)
    (each : ∀ (α : Type) (x : Act σ α), basic α x → Matches watch R x x) : Matches watch R x x := by
  induction built with
  | basic is => exact each _ _ is
  | pure a => exact matches_pure a
  | bind _ _ first rest => exact matches_bind first rest
  | @look _ f depends _ rest =>
      apply matches_get_bind
      intro s t related
      rw [depends t s (same s t related).symm]
      exact rest s s t related
  | ensuring _ _ first last => exact matches_ensuring first last
  | recover _ _ first rest => exact matches_recover first rest

theorem stays {I : σ → Prop} {P : Fault → Prop} {x : Act σ α} (built : Built view basic x)
    (each : ∀ (α : Type) (x : Act σ α), basic α x → Stays I P x) : Stays I P x := by
  induction built with
  | basic is => exact each _ _ is
  | pure a => exact stays_pure a
  | bind _ _ first rest => exact stays_bind first rest
  | look _ _ rest => exact stays_bind stays_get rest
  | ensuring _ _ first last => exact stays_ensuring first last
  | recover _ _ first rest => exact stays_recover first fun fault _ => rest fault

end Built

end HatReel.Rig.Act
