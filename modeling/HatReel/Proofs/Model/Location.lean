import HatReel.Proofs.Files.Trails
import HatReel.Proofs.Model.Cache

/-! Where a model lies in the cache.

A path's names are the parts of its text between slashes, so none of them holds a slash, and those
that are empty or a dot are left out. A model has the last of its route's names, or a name of its
own if there is none. It lies in the directory of the cache unless that name is a double dot, which
leads out of it. The part that is received under a longer name lies in the directory always. -/

namespace HatReel.Text

end HatReel.Text

namespace HatReel.Model

open HatReel.Files HatReel.Text

/-- A name that can stand for an entry of a directory, or for the directory above. -/
structure IsComponent (name : String) : Prop where
  filled : name ≠ ""
  whole : '/' ∉ name.toList
  notDot : name ≠ "."

/-- With some text behind it a name is longer than a double dot, and still a name. -/
theorem IsComponent.part {name : String} (component : IsComponent name) :
    IsComponent (name ++ ".part") ∧ name ++ ".part" ≠ ".." := by
  have length : (name ++ ".part").length = name.length + 5 := String.length_append _ _
  have longer {short : String} (less : short.length < 5) : name ++ ".part" ≠ short := by
    rintro rfl
    omega
  refine ⟨⟨longer (by decide), ?_, longer (by decide)⟩, longer (by decide)⟩
  rw [String.toList_append, List.mem_append, not_or]
  exact ⟨component.whole, by decide⟩

end HatReel.Model
