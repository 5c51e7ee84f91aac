import HatReel.Rig.World

/-! Laws of steps on devices.

A step that gives an answer is followed by the next one; a fault ends everything. What every single
step keeps, a sequence of steps keeps: a relation between a state, the events that follow and the
state after them is carried from step to step if it holds of no events and can be joined. -/

namespace HatReel.Rig

variable {σ τ α β : Type}

def Ran.after (before : List Event) (r : Ran σ α) : Ran σ α :=
  ⟨r.answer, r.state, before ++ r.trace⟩

namespace Act

theorem pure_run (a : α) (s : σ) : (pure a : Act σ α) s = ⟨.ok a, s, []⟩ := rfl

theorem get_run (s : σ) : get s = ⟨.ok s, s, []⟩ := rfl

theorem fail_run (fault : Fault) (s : σ) : (fail fault : Act σ α) s = ⟨.error fault, s, []⟩ := rfl

theorem modify_run (f : σ → σ) (s : σ) : modify f s = ⟨.ok (), f s, []⟩ := rfl

theorem emit_run (event : Event) (s : σ) : emit event s = ⟨.ok (), s, [event]⟩ := rfl

theorem on_run {part : σ → τ} {put : τ → σ → σ} {x : Act τ α} {s : σ} {inner : τ}
    {answer : Except Fault α} {t : List Event} (step : x (part s) = ⟨answer, inner, t⟩) :
    on part put x s = ⟨answer, put inner s, t⟩ := by
  rw [on, step]

theorem below_run {x : Act σ α} {s inner : σ} {answer : Except Fault α} {t : List Event}
    (step : x s = ⟨answer, inner, t⟩) (object : τ) :
    below x (object, s) = ⟨answer, (object, inner), t⟩ := on_run step

theorem bind_of_ok {x : Act σ α} {s next : σ} {a : α} {t : List Event} (f : α → Act σ β)
    (step : x s = ⟨.ok a, next, t⟩) : (x >>= f) s = (f a next).after t := by
  change Act.bind x f s = _
  rw [Act.bind, step]
  rfl

theorem bind_of_error {x : Act σ α} {s next : σ} {fault : Fault} {t : List Event}
    (f : α → Act σ β) (step : x s = ⟨.error fault, next, t⟩) :
    (x >>= f) s = ⟨.error fault, next, t⟩ := by
  change Act.bind x f s = _
  rw [Act.bind, step]

theorem bind_run {x : Act σ α} {f : α → Act σ β} {s next last : σ} {a : α} {b : Except Fault β}
    {t before after : List Event} (step : x s = ⟨.ok a, next, before⟩)
    (rest : f a next = ⟨b, last, after⟩) (joined : t = before ++ after) :
    (x >>= f) s = ⟨b, last, t⟩ := by
  rw [bind_of_ok f step, rest, joined]
  rfl

theorem bind_rest {x : Act σ α} {f : α → Act σ β} {s next last : σ} {a : α} {b : Except Fault β}
    {t before : List Event} (ran : (x >>= f) s = ⟨b, last, t⟩)
    (step : x s = ⟨.ok a, next, before⟩) :
    ∃ after, f a next = ⟨b, last, after⟩ ∧ t = before ++ after := by
  rw [bind_of_ok f step] at ran
  rcases rest : f a next with ⟨final, state, after⟩
  rw [rest] at ran
  cases ran
  exact ⟨after, rfl, rfl⟩

/-- What comes after a step matters for the answers of the step only. -/
theorem bind_congr_of {x : Act σ α} {f g : α → Act σ β}
    (same : ∀ s a next t, x s = ⟨.ok a, next, t⟩ → f a = g a) : x >>= f = x >>= g := by
  funext s
  rcases step : x s with ⟨fault | a, next, t⟩
  · rw [bind_of_error f step, bind_of_error g step]
  · rw [bind_of_ok f step, bind_of_ok g step, same s a next t step]

theorem get_bind (f : σ → Act σ β) (s : σ) : (get >>= f) s = f s s := rfl

theorem bind_ok {x : Act σ α} {f : α → Act σ β} {s last : σ} {b : β} {t : List Event}
    (ran : (x >>= f) s = ⟨.ok b, last, t⟩) :
    ∃ a next before after, x s = ⟨.ok a, next, before⟩ ∧
      f a next = ⟨.ok b, last, after⟩ ∧ t = before ++ after := by
  rcases step : x s with ⟨answer, next, before⟩
  cases answer with
  | error fault =>
      rw [bind_of_error f step] at ran
      cases ran
  | ok a =>
      rw [bind_of_ok f step] at ran
      rcases rest : f a next with ⟨final, state, after⟩
      rw [rest] at ran
      cases ran
      exact ⟨a, next, before, after, rfl, rest, rfl⟩

theorem pure_ok {a b : α} {s last : σ} {t : List Event}
    (ran : (pure a : Act σ α) s = ⟨.ok b, last, t⟩) : b = a ∧ last = s ∧ t = [] := by
  cases ran
  exact ⟨rfl, rfl, rfl⟩

theorem on_ok {part : σ → τ} {put : τ → σ → σ} {x : Act τ α} {s last : σ} {a : α}
    {t : List Event} (ran : on part put x s = ⟨.ok a, last, t⟩) :
    ∃ inner, x (part s) = ⟨.ok a, inner, t⟩ ∧ last = put inner s := by
  rcases step : x (part s) with ⟨answer, inner, trace⟩
  rw [on, step] at ran
  cases ran
  exact ⟨inner, rfl, rfl⟩

theorem require_ok {x : Option α} {fault : Fault} {a : α} {s last : σ} {t : List Event}
    (ran : require x fault s = ⟨.ok a, last, t⟩) : x = some a ∧ last = s ∧ t = [] := by
  cases x with
  | none => cases ran
  | some b =>
      cases ran
      exact ⟨rfl, rfl, rfl⟩

theorem ofExcept_ok {ε : Type} {wrap : ε → Fault} {x : Except ε α} {a : α} {s last : σ}
    {t : List Event} (ran : ofExcept wrap x s = ⟨.ok a, last, t⟩) :
    x = .ok a ∧ last = s ∧ t = [] := by
  cases x with
  | error e => cases ran
  | ok b =>
      cases ran
      exact ⟨rfl, rfl, rfl⟩

theorem require_some_bind (a : α) (fault : Fault) (f : α → Act σ β) :
    (require (some a) fault >>= f) = f a := rfl

theorem ofExcept_ok_bind {ε : Type} (wrap : ε → Fault) (a : α) (f : α → Act σ β) :
    (ofExcept wrap (.ok a) >>= f) = f a := rfl

theorem ensuring_run {x : Act σ α} {cleanup : Act σ Unit} {answer : Except Fault α}
    {s middle last : σ} {before after : List Event} (step : x s = ⟨answer, middle, before⟩)
    (clean : cleanup middle = ⟨.ok (), last, after⟩) :
    ensuring x cleanup s = ⟨answer, last, before ++ after⟩ := by
  unfold ensuring
  rw [step]
  simp only [clean]

theorem recover_ok {x : Act σ α} (f : Fault → Act σ α) {s next : σ} {a : α} {t : List Event}
    (step : x s = ⟨.ok a, next, t⟩) : recover x f s = ⟨.ok a, next, t⟩ := by
  unfold recover
  rw [step]

theorem recover_error {x : Act σ α} {f : Fault → Act σ α} {s next last : σ} {fault : Fault}
    {answer : Except Fault α} {before after : List Event}
    (step : x s = ⟨.error fault, next, before⟩) (rest : f fault next = ⟨answer, last, after⟩) :
    recover x f s = ⟨answer, last, before ++ after⟩ := by
  unfold recover
  rw [step]
  simp only [rest]

def Returns (x : Act σ α) (s : σ) : Prop := ∃ a next t, x s = ⟨.ok a, next, t⟩

theorem returns_pure (a : α) (s : σ) : Returns (pure a) s := ⟨a, s, [], rfl⟩

theorem returns_bind {x : Act σ α} {f : α → Act σ β} {s next : σ} {a : α} {t : List Event}
    (step : x s = ⟨.ok a, next, t⟩) (rest : Returns (f a) next) : Returns (x >>= f) s := by
  obtain ⟨b, last, after, ran⟩ := rest
  exact ⟨b, last, t ++ after, bind_run step ran rfl⟩

theorem returns_answer {x : Act σ α} {s : σ} : Returns x s ↔ ∃ a, (x s).answer = .ok a := by
  rcases ran : x s with ⟨answer, next, t⟩
  constructor
  · rintro ⟨a, last, u, returned⟩
    rw [ran] at returned
    cases returned
    exact ⟨a, rfl⟩
  · rintro ⟨a, rfl⟩
    exact ⟨a, next, t, ran⟩

/-- Whatever `x` starts from, its events and the state it leaves are related. -/
def Obeys (R : σ → List Event → σ → Prop) (x : Act σ α) : Prop :=
  ∀ s, R s (x s).trace (x s).state

/-- A relation that holds where nothing happens, and of two stretches together if of each. -/
structure Joins (R : σ → List Event → σ → Prop) : Prop where
  nothing : ∀ s, R s [] s
  join : ∀ {s next last before after}, R s before next → R next after last →
    R s (before ++ after) last

section

variable {R : σ → List Event → σ → Prop} (joins : Joins R)

include joins

theorem obeys_pure (a : α) : Obeys R (pure a) := joins.nothing

theorem obeys_fail (fault : Fault) : Obeys R (fail fault : Act σ α) := joins.nothing

theorem obeys_get : Obeys R get := joins.nothing

theorem obeys_require (x : Option α) (fault : Fault) : Obeys R (require x fault) := by
  cases x <;> exact joins.nothing

theorem obeys_ofExcept {ε : Type} (wrap : ε → Fault) (x : Except ε α) :
    Obeys R (ofExcept wrap x) := by
  cases x <;> exact joins.nothing

/-- The answer of the first step, if it has one, comes from a state that the first step left. -/
theorem obeys_bind_of {x : Act σ α} {f : α → Act σ β} (first : Obeys R x)
    (rest : ∀ s a next t, x s = ⟨.ok a, next, t⟩ → R next (f a next).trace (f a next).state) :
    Obeys R (x >>= f) := by
  intro s
  have start := first s
  rcases step : x s with ⟨answer, next, before⟩
  rw [step] at start
  cases answer with
  | error fault =>
      rw [bind_of_error f step]
      exact start
  | ok a =>
      rw [bind_of_ok f step]
      exact joins.join start (rest s a next before step)

theorem obeys_bind {x : Act σ α} {f : α → Act σ β} (first : Obeys R x)
    (rest : ∀ a, Obeys R (f a)) : Obeys R (x >>= f) :=
  obeys_bind_of joins first fun _ a next _ _ => rest a next

theorem obeys_ensuring {x : Act σ α} {cleanup : Act σ Unit} (first : Obeys R x)
    (last : Obeys R cleanup) : Obeys R (ensuring x cleanup) := by
  intro s
  have before := first s
  rcases step : x s with ⟨answer, middle, trace⟩
  have after := last middle
  rcases clean : cleanup middle with ⟨result, final, more⟩
  rw [step] at before
  rw [clean] at after
  unfold ensuring
  rw [step]
  simp only [clean]
  cases result <;> exact joins.join before after

theorem obeys_recover {x : Act σ α} {f : Fault → Act σ α} (first : Obeys R x)
    (rest : ∀ fault, Obeys R (f fault)) : Obeys R (recover x f) := by
  intro s
  have before := first s
  rcases step : x s with ⟨answer, middle, trace⟩
  rw [step] at before
  unfold recover
  rw [step]
  cases answer with
  | ok a => exact before
  | error fault => exact joins.join before (rest fault middle)

end

theorem obeys_on {R : σ → List Event → σ → Prop} {Q : τ → List Event → τ → Prop}
    {part : σ → τ} {put : τ → σ → σ} {x : Act τ α} (inner : Obeys Q x)
    (lift : ∀ s t u, Q (part s) t u → R s t (put u s)) : Obeys R (on part put x) :=
  fun s => lift s _ _ (inner (part s))

theorem obeys_mono {R Q : σ → List Event → σ → Prop} {x : Act σ α} (inner : Obeys Q x)
    (weaken : ∀ s t u, Q s t u → R s t u) : Obeys R x :=
  fun s => weaken s _ _ (inner s)

end Act

end HatReel.Rig
