import HatReel.Proofs.Rig.Events

/-! Two runs side by side.

Two steps match if from related states they give the same answer, leave related states and look the
same to an observer who watches some of the events. Matching steps can be joined, so that two long
runs are compared step by step. -/

namespace HatReel.Rig

variable {σ σ' τ τ' α β : Type}

/-- The results agree in their answers and in what is watched of their events, and they leave
related states. -/
structure Alike (watch : Event → Bool) (R : σ → σ' → Prop) (x : Ran σ α) (y : Ran σ' α) : Prop where
  answer : x.answer = y.answer
  state : R x.state y.state
  trace : x.trace.filter watch = y.trace.filter watch

theorem Alike.after {watch : Event → Bool} {R : σ → σ' → Prop} {x : Ran σ α} {y : Ran σ' α}
    {t u : List Event} (alike : Alike watch R x y) (before : t.filter watch = u.filter watch) :
    Alike watch R (x.after t) (y.after u) where
  answer := alike.answer
  state := alike.state
  trace := by
    change (t ++ x.trace).filter watch = (u ++ y.trace).filter watch
    rw [List.filter_append, List.filter_append, before, alike.trace]

namespace Act

/-- From related states the steps have results that are alike. -/
def Matches (watch : Event → Bool) (R : σ → σ' → Prop) (x : Act σ α) (y : Act σ' α) : Prop :=
  ∀ s t, R s t → Alike watch R (x s) (y t)

section

variable {watch : Event → Bool} {R : σ → σ' → Prop}

theorem matches_pure (a : α) : Matches watch R (pure a : Act σ α) (pure a : Act σ' α) :=
  fun _ _ related => ⟨rfl, related, rfl⟩

theorem matches_fail (fault : Fault) :
    Matches watch R (fail fault : Act σ α) (fail fault : Act σ' α) :=
  fun _ _ related => ⟨rfl, related, rfl⟩

theorem matches_require (x : Option α) (fault : Fault) :
    Matches watch R (require x fault : Act σ α) (require x fault : Act σ' α) := by
  cases x with
  | none => exact matches_fail fault
  | some a => exact matches_pure a

theorem matches_ofExcept {ε : Type} (wrap : ε → Fault) (x : Except ε α) :
    Matches watch R (ofExcept wrap x : Act σ α) (ofExcept wrap x : Act σ' α) := by
  cases x with
  | error e => exact matches_fail (wrap e)
  | ok a => exact matches_pure a

theorem matches_modify {f : σ → σ} {g : σ' → σ'} (keeps : ∀ s t, R s t → R (f s) (g t)) :
    Matches watch R (modify f) (modify g) :=
  fun s t related => ⟨rfl, keeps s t related, rfl⟩

theorem matches_bind {x : Act σ α} {y : Act σ' α} {f : α → Act σ β} {g : α → Act σ' β}
    (first : Matches watch R x y) (rest : ∀ a, Matches watch R (f a) (g a)) :
    Matches watch R (x >>= f) (y >>= g) := by
  intro s t related
  have start := first s t related
  rcases left : x s with ⟨answer, next, before⟩
  rcases right : y t with ⟨answer', next', before'⟩
  rw [left, right] at start
  obtain ⟨same, relatedNext, looks⟩ := start
  cases same
  cases answer with
  | error fault =>
      rw [bind_of_error f left, bind_of_error g right]
      exact ⟨rfl, relatedNext, looks⟩
  | ok a =>
      rw [bind_of_ok f left, bind_of_ok g right]
      exact (rest a next next' relatedNext).after looks

/-- What comes after a look at the state may differ, as long as it matches from these two states. -/
theorem matches_get_bind {f : σ → Act σ β} {g : σ' → Act σ' β}
    (rest : ∀ s t, R s t → Alike watch R (f s s) (g t t)) :
    Matches watch R (get >>= f) (get >>= g) := rest

theorem matches_ensuring {x : Act σ α} {y : Act σ' α} {cleanup : Act σ Unit}
    {cleanup' : Act σ' Unit} (first : Matches watch R x y)
    (last : Matches watch R cleanup cleanup') :
    Matches watch R (ensuring x cleanup) (ensuring y cleanup') := by
  intro s t related
  have start := first s t related
  have finish := last (x s).state (y t).state start.state
  have looks : ((x s).trace ++ (cleanup (x s).state).trace).filter watch =
      ((y t).trace ++ (cleanup' (y t).state).trace).filter watch := by
    rw [List.filter_append, List.filter_append, start.trace, finish.trace]
  unfold ensuring
  rcases left : cleanup (x s).state with ⟨_ | _, last, after⟩ <;>
    rcases right : cleanup' (y t).state with ⟨_ | _, last', after'⟩ <;>
    rw [left, right] at finish looks <;>
    simp only [left, right]
  · cases finish.answer
    exact ⟨rfl, finish.state, looks⟩
  · cases finish.answer
  · cases finish.answer
  · exact ⟨start.answer, finish.state, looks⟩

theorem matches_recover {x : Act σ α} {y : Act σ' α} {f : Fault → Act σ α} {g : Fault → Act σ' α}
    (first : Matches watch R x y) (rest : ∀ fault, Matches watch R (f fault) (g fault)) :
    Matches watch R (recover x f) (recover y g) := by
  intro s t related
  have start := first s t related
  rcases left : x s with ⟨answer, next, before⟩
  rcases right : y t with ⟨answer', next', before'⟩
  rw [left, right] at start
  obtain ⟨same, relatedNext, looks⟩ := start
  cases same
  cases answer with
  | ok a =>
      rw [recover_ok f left, recover_ok g right]
      exact ⟨rfl, relatedNext, looks⟩
  | error fault =>
      rw [recover_error left rfl, recover_error right rfl]
      exact (rest fault next next' relatedNext).after looks

theorem matches_on {Q : τ → τ' → Prop} {part : σ → τ} {part' : σ' → τ'} {put : τ → σ → σ}
    {put' : τ' → σ' → σ'} {x : Act τ α} {y : Act τ' α} (inner : Matches watch Q x y)
    (down : ∀ s t, R s t → Q (part s) (part' t))
    (up : ∀ s t a b, R s t → Q a b → R (put a s) (put' b t)) :
    Matches watch R (on part put x) (on part' put' y) := by
  intro s t related
  obtain ⟨answer, state, trace⟩ := inner _ _ (down s t related)
  exact ⟨answer, up s t _ _ related state, trace⟩

def SameObject (R : σ → σ' → Prop) (p : τ × σ) (q : τ × σ') : Prop := p.1 = q.1 ∧ R p.2 q.2

theorem alike_withState {x : Act (τ × σ) α} {y : Act (τ × σ') α} {object : τ} {s : σ} {t : σ'}
    (inner : Alike watch (SameObject R) (x (object, s)) (y (object, t))) :
    Alike watch R (withState object x s) (withState object y t) :=
  ⟨inner.answer, inner.state.2, inner.trace⟩

end

end Act

end HatReel.Rig
