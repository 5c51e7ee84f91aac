import HatReel.Proofs.Rig.Events

/-! How devices come and go in a list of events: which openings and ends there are of a device, in
which order the ends stand, and what may still happen after one of them. -/

namespace HatReel.Rig

namespace Event

def ending? : Event → Option Device
  | .captureRelease => some .camera
  | .writerRelease => some .writer
  | .destroyWindow _ => some .window
  | _ => none

/-- Whether an event may be followed by another one at all. The release of a camera comes last but
for the journal, and a writer that has been released is not used again. -/
def Allows : Event → Event → Prop
  | .captureRelease, later => later.device = .journal
  | .writerRelease, later => later.device ≠ .writer
  | _, _ => True

theorem ending?_quiet {e : Event} (quiet : e.lifecycle? = none) : e.ending? = none := by
  cases e <;> first | rfl | cases quiet

theorem allows_quiet {e : Event} (quiet : e.lifecycle? = none) (later : Event) :
    e.Allows later := by
  cases e <;> first | exact trivial | cases quiet

end Event

def lifecycle (device : Device) (t : List Event) : List Event :=
  t.filter fun e => e.lifecycle? == some device

def endings (t : List Event) : List Device := t.filterMap Event.ending?

/-- Every event allows all those that come after it. -/
def Orderly (t : List Event) : Prop := t.Pairwise Event.Allows

theorem lifecycle_append (device : Device) (t u : List Event) :
    lifecycle device (t ++ u) = lifecycle device t ++ lifecycle device u :=
  List.filter_append t u

theorem endings_append (t u : List Event) : endings (t ++ u) = endings t ++ endings u :=
  List.filterMap_append

theorem Quiet.lifecycle {t : List Event} (quiet : Quiet t) (device : Device) :
    lifecycle device t = [] := by
  rw [Rig.lifecycle, List.filter_eq_nil_iff]
  intro e member
  rw [quiet e member]
  exact Bool.false_ne_true

theorem Quiet.endings {t : List Event} (quiet : Quiet t) : endings t = [] := by
  rw [Rig.endings, List.filterMap_eq_nil_iff]
  intro e member
  exact Event.ending?_quiet (quiet e member)

def Harmless (t : List Event) : Prop := ∀ e ∈ t, ∀ later : Event, e.Allows later

theorem Quiet.harmless {t : List Event} (quiet : Quiet t) : Harmless t :=
  fun e member later => Event.allows_quiet (quiet e member) later

theorem Harmless.append {t u : List Event} (first : Harmless t) (second : Harmless u) :
    Harmless (t ++ u) := by
  intro e member
  rcases List.mem_append.mp member with left | right
  · exact first e left
  · exact second e right

theorem Harmless.cons {e : Event} {t : List Event} (first : ∀ later, e.Allows later)
    (rest : Harmless t) : Harmless (e :: t) := by
  intro f member
  rcases List.mem_cons.mp member with rfl | inside
  · exact first
  · exact rest f inside

theorem Harmless.orderly_append {t u : List Event} (harmless : Harmless t) (rest : Orderly u) :
    Orderly (t ++ u) := by
  induction t with
  | nil => exact rest
  | cons e t ih =>
      refine List.Pairwise.cons ?_ (ih fun f member => harmless f (List.mem_cons_of_mem e member))
      intro later _
      exact harmless e List.mem_cons_self later

theorem Quiet.orderly {t : List Event} (quiet : Quiet t) : Orderly t := by
  have whole := quiet.harmless.orderly_append (u := []) List.Pairwise.nil
  rwa [List.append_nil] at whole

theorem orderly_captureRelease {t : List Event} (last : Within [.journal] t) :
    Orderly (.captureRelease :: t) := by
  refine List.Pairwise.cons ?_ last.quiet.orderly
  intro later member
  exact List.mem_singleton.mp (last later member)

theorem orderly_writerRelease {devices : List Device} {t : List Event} (within : Within devices t)
    (other : .writer ∉ devices) (rest : Orderly t) : Orderly (.writerRelease :: t) := by
  refine List.Pairwise.cons ?_ rest
  intro later member same
  exact other (same ▸ within later member)

end HatReel.Rig
