import HatReel.Proofs.Rig.Beside

/-! What comes to the console.

A step says nothing of its own: whatever it adds to the console are lines of messages. -/

namespace HatReel.Rig

open HatReel.Files HatReel.Log

/-- The console has grown by the lines of some messages. -/
def Prints (w : World) (_ : List Event) (w' : World) : Prop :=
  ∃ told, Within [.journal] told ∧ w'.console = w.console ++ logText told

theorem Prints.silent {w w' : World} {t : List Event} (same : w'.console = w.console) :
    Prints w t w' := ⟨[], Within.nil, by rw [same, logText_nil, String.append_empty]⟩

theorem prints_joins : Act.Joins Prints where
  nothing _ := .silent rfl
  join := by
    rintro w next last _ _ ⟨before, withinBefore, first⟩ ⟨after, withinAfter, second⟩
    refine ⟨before ++ after, withinBefore.append withinAfter, ?_⟩
    rw [second, first, logText_append, String.append_assoc]

theorem writeLine_prints (level logger message : String) (sinks : List Sink) (w : World) :
    Prints w [] (w.writeLine (Log.line level logger message) sinks) := by
  induction sinks generalizing w with
  | nil => exact .silent rfl
  | cons sink rest ih =>
      cases sink with
      | events => exact ih w
      | console =>
          have one : Prints w [] { w with console := w.console ++ Log.line level logger message } :=
            ⟨[.log level logger message], Within.single (by simp [Event.device]), by
              rw [logText_single]
              rfl⟩
          exact prints_joins.join one (ih _)
      | file key =>
          cases key with
          | none => exact ih w
          | some key => exact ih { w with files := w.files.append key _ }

theorem prints_log (level : Level) (logger message : String) :
    Act.Obeys Prints (log level logger message) := by
  intro w
  unfold log logAt
  split
  · exact writeLine_prints _ logger message _ w
  · exact .silent rfl

namespace Leave

variable {l : Leave} {α : Type} {x : Act World α}

theorem Fetch.prints (is : l.Fetch α x) : Act.Obeys Prints x := by
  intro w
  cases is with
  | fail fault allowed => exact .silent rfl
  | log level logger message calm => exact prints_log level logger message w
  | emit e loud => exact .silent rfl
  | respond f => exact .silent rfl
  | ask f p isLocal seen =>
      unfold askFiles
      split <;> exact .silent rfl
  | ensure p own =>
      unfold ensureDirectory
      split <;> exact .silent rfl
  | write p content own =>
      unfold changeFiles
      split <;> exact .silent rfl
  | unlink p own =>
      unfold Rig.unlink
      split <;> exact .silent rfl
  | replace p target own ownTarget =>
      unfold Rig.replace
      split <;> exact .silent rfl

theorem Basic.prints (is : l.Basic α x) : Act.Obeys Prints x := by
  cases is with
  | fetch is => exact is.prints
  | take f => exact fun _ => .silent rfl

theorem Permits.prints (permits : l.Permits x) : Act.Obeys Prints x :=
  permits.obeys prints_joins fun _ _ is => is.prints

end Leave

end HatReel.Rig
