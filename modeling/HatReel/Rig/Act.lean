import HatReel.Files.Store
import HatReel.Log.Journal
import HatReel.Rig.Event
import HatReel.Rig.Fault
import HatReel.Rig.Script

/-!
Steps on devices. A step gives an answer or a fault; either way it leaves a state and the events
that it caused, in order.
-/

namespace HatReel.Rig

open HatReel.Files HatReel.Log

structure Ran (σ α : Type) where
  answer : Except Fault α
  state : σ
  trace : List Event

def Act (σ α : Type) : Type := σ → Ran σ α

namespace Act

variable {σ τ α β : Type}

protected def pure (a : α) : Act σ α := fun s => ⟨.ok a, s, []⟩

protected def bind (x : Act σ α) (f : α → Act σ β) : Act σ β := fun s =>
  match x s with
  | ⟨.ok a, s, before⟩ =>
    match f a s with
    | ⟨b, s, after⟩ => ⟨b, s, before ++ after⟩
  | ⟨.error fault, s, before⟩ => ⟨.error fault, s, before⟩

instance : Monad (Act σ) where
  pure := Act.pure
  bind := Act.bind

def fail (fault : Fault) : Act σ α := fun s => ⟨.error fault, s, []⟩

def get : Act σ σ := fun s => ⟨.ok s, s, []⟩

def modify (f : σ → σ) : Act σ Unit := fun s => ⟨.ok (), f s, []⟩

def emit (event : Event) : Act σ Unit := fun s => ⟨.ok (), s, [event]⟩

def ofExcept {ε : Type} (wrap : ε → Fault) : Except ε α → Act σ α
  | .ok a => Act.pure a
  | .error e => fail (wrap e)

def require (x : Option α) (fault : Fault) : Act σ α :=
  match x with
  | some a => Act.pure a
  | none => fail fault

def on (part : σ → τ) (put : τ → σ → σ) (x : Act τ α) : Act σ α := fun s =>
  match x (part s) with
  | ⟨a, t, trace⟩ => ⟨a, put t s, trace⟩

def withState (t : τ) (x : Act (τ × σ) α) : Act σ α := fun s =>
  match x (t, s) with
  | ⟨a, (_, s), trace⟩ => ⟨a, s, trace⟩

def below (x : Act σ α) : Act (τ × σ) α := on Prod.snd (fun s p => (p.1, s)) x

/-- Runs `x`, and after it, however it ended, `cleanup`, which may fail in its place. -/
def ensuring (x : Act σ α) (cleanup : Act σ Unit) : Act σ α := fun s =>
  match x s with
  | ⟨a, s, before⟩ =>
    match cleanup s with
    | ⟨.ok _, s, after⟩ => ⟨a, s, before ++ after⟩
    | ⟨.error fault, s, after⟩ => ⟨.error fault, s, before ++ after⟩

def recover (x : Act σ α) (f : Fault → Act σ α) : Act σ α := fun s =>
  match x s with
  | ⟨.ok a, s, before⟩ => ⟨.ok a, s, before⟩
  | ⟨.error fault, s, before⟩ =>
    match f fault s with
    | ⟨b, s, after⟩ => ⟨b, s, before ++ after⟩

end Act

end HatReel.Rig
