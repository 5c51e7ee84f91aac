import HatReel.Proofs.Files.Kinds
import HatReel.Proofs.Rig.Events
import HatReel.Proofs.Rig.Built

/-! What the steps of a run have leave to do.

All steps around a reel are built from a few basic ones. A leave bounds these: the faults that they
end with, the keys of the store that they look at, and the keys that they change. -/

namespace HatReel.Rig

open HatReel.Files HatReel.Files.Store HatReel.Log

structure Leave where
  fails : Fault → Prop
  sees : List Key
  changes : List Key
  files : ∀ fault, fails (.file fault)
  inside : ∀ key ∈ changes, key ∈ sees

namespace Leave

def free (sees changes : List Key) (inside : ∀ key ∈ changes, key ∈ sees) : Leave where
  fails _ := True
  sees := sees
  changes := changes
  files _ := trivial
  inside := inside

inductive Fetch (l : Leave) : (α : Type) → Act World α → Prop where
  | fail {α : Type} (fault : Fault) (allowed : l.fails fault) : Fetch l α (.fail fault)
  | log (level : Level) (logger message : String) (calm : level ≠ .error) :
      Fetch l Unit (log level logger message)
  | emit (e : Event) (loud : e.device ≠ .journal) : Fetch l Unit (.emit e)
  | respond {α : Type} (f : List Response → α × List Response) :
      Fetch l α fun w => ⟨.ok (f w.scripts.responses).1,
        { w with scripts := { w.scripts with responses := (f w.scripts.responses).2 } }, []⟩
  | ask {α : Type} (f : Store → Except FileFault α) (p : Path)
      (isLocal : ∀ s s', Agree (· ∈ p.trail) s s' → f s' = f s)
      (seen : ∀ key ∈ p.trail, key ∈ l.sees) : Fetch l α (askFiles f)
  | ensure (p : Path) (own : ∀ key ∈ p.trail, key ∈ l.changes) : Fetch l Unit (ensureDirectory p)
  | write (p : Path) (content : List UInt8) (own : ∀ key ∈ p.trail, key ∈ l.changes) :
      Fetch l Unit (changeFiles fun s => s.write p content)
  | unlink (p : Path) (own : ∀ key ∈ p.trail, key ∈ l.changes) : Fetch l Unit (unlink p)
  | replace (p target : Path) (own : ∀ key ∈ p.trail, key ∈ l.changes)
      (ownTarget : ∀ key ∈ target.trail, key ∈ l.changes) : Fetch l Unit (replace p target)

/-- Basic steps, those among them that use up scripts of other devices. -/
inductive Basic (l : Leave) : (α : Type) → Act World α → Prop where
  | fetch {α : Type} {x : Act World α} (is : l.Fetch α x) : Basic l α x
  | take {α : Type} (f : Scripts → α × Scripts) :
      Basic l α fun w => ⟨.ok (f w.scripts).1, { w with scripts := (f w.scripts).2 }, []⟩

/-- Built from basic steps within a leave. Besides, only the scripts are looked at. -/
abbrev Permits (l : Leave) {α : Type} (x : Act World α) : Prop :=
  Act.Built World.scripts l.Basic x

/-- Built from basic steps of fetching within a leave, without a look at anything else. -/
abbrev Allows (l : Leave) {α : Type} (x : Act World α) : Prop :=
  Act.Built (fun _ => ()) l.Fetch x

section

variable {l : Leave} {α : Type}

theorem Allows.permits {x : Act World α} (allows : l.Allows x) : l.Permits x :=
  Act.Built.trans allows (fun _ _ _ => rfl) fun _ _ is => .basic (.fetch is)

theorem allows_exists? {p : Path} (seen : ∀ key ∈ p.trail, key ∈ l.sees) :
    l.Allows (askFiles fun s => s.exists? p) := by
  apply Act.Built.basic
  apply Fetch.ask _ p _ seen
  intro s s' agree
  unfold exists?
  rw [look?_agree agree fun _ inside => inside]

theorem allows_isFile? {p : Path} (seen : ∀ key ∈ p.trail, key ∈ l.sees) :
    l.Allows (askFiles fun s => s.isFile? p) := by
  apply Act.Built.basic
  apply Fetch.ask _ p _ seen
  intro s s' agree
  unfold isFile?
  rw [look?_agree agree fun _ inside => inside]

theorem permits_log (level : Level) (logger message : String) (calm : level ≠ .error) :
    l.Permits (log level logger message) := .basic (.fetch (.log level logger message calm))

theorem permits_fail {fault : Fault} (allowed : l.fails fault) :
    l.Permits (.fail fault : Act World α) := .basic (.fetch (.fail fault allowed))

theorem permits_emit (e : Event) (loud : e.device ≠ .journal) : l.Permits (.emit e) :=
  .basic (.fetch (.emit e loud))

theorem permits_require (x : Option α) {fault : Fault} (allowed : l.fails fault) :
    l.Permits (Act.require x fault) := by
  cases x with
  | none => exact permits_fail allowed
  | some a => exact .pure a

end

theorem Fetch.stays {l : Leave} {α : Type} {x : Act World α} (is : l.Fetch α x) :
    Act.Stays (fun _ => True) l.fails x := by
  intro w _
  refine ⟨trivial, fun fault failed => ?_⟩
  cases is with
  | fail other allowed =>
      cases failed
      exact allowed
  | log level logger message calm =>
      obtain ⟨w', t, step, -⟩ := log_run level logger message w
      rw [step] at failed
      cases failed
  | emit e loud => cases failed
  | respond f => cases failed
  | ask f p isLocal seen =>
      unfold askFiles at failed
      split at failed <;> cases failed
      exact l.files _
  | ensure p own =>
      unfold ensureDirectory at failed
      split at failed <;> cases failed
      exact l.files _
  | write p content own =>
      unfold changeFiles at failed
      split at failed <;> cases failed
      exact l.files _
  | unlink p own =>
      unfold Rig.unlink at failed
      split at failed <;> cases failed
      exact l.files _
  | replace p target own ownTarget =>
      unfold Rig.replace at failed
      split at failed <;> cases failed
      exact l.files _

theorem Permits.fails {l : Leave} {α : Type} {x : Act World α} (permits : l.Permits x) {w : World}
    {fault : Fault} (failed : (x w).answer = .error fault) : l.fails fault := by
  have stays : Act.Stays (fun _ => True) l.fails x := by
    refine permits.stays fun β y is => ?_
    cases is with
    | fetch is => exact is.stays
    | take f => exact fun v _ => ⟨trivial, fun _ never => nomatch never⟩
  exact (stays w trivial).2 fault failed

end Leave

end HatReel.Rig
