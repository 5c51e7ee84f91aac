import HatReel.Contour.Trace
import HatReel.Proofs.Draw.Ends
import HatReel.Proofs.Image.Pixels

/-! Borders run along pixels that are not zero.

The marks of a picture may change, but a pixel that is not zero never loses its mark, and one that
is zero never gets one. A border that is followed goes from such a pixel to a neighbour that is one,
too, because the neighbour it came from is always found again. It leaves the straight line at least
once before it returns, so that some point of it is kept. -/

namespace HatReel.Contour

open HatReel.Draw HatReel.Image

structure Shows (f : Frame) (p : Nat × Nat) : Prop where
  left : 1 ≤ p.1
  top : 1 ≤ p.2
  bright : f.byte (p.1 - 1) (p.2 - 1) 0 ≠ 0

/-- The marks tell the pixels that are zero from those that are not. -/
structure Grid.Pictures (g : Grid) (f : Frame) : Prop where
  size : g.size = f.width + 2
  marks : g.marks.size = (f.height + 2) * (f.width + 2)
  set_iff : ∀ x ≤ f.width + 1, ∀ y ≤ f.height + 1, g.get x y ≠ .blank ↔ Shows f (x, y)

def OnBright (f : Frame) (q : Point) : Prop :=
  q.IsInside f.width f.height ∧ f.byte q.x.toNat q.y.toNat 0 ≠ 0

variable {f : Frame} {g : Grid} {p : Nat × Nat}

theorem bright_inside {x y : Nat} (bright : f.byte x y 0 ≠ 0) : x < f.width ∧ y < f.height := by
  have has : f.hasByte x y 0 = true := by
    by_contra none
    exact bright (Frame.byte_outside (by simpa using none))
  obtain ⟨left, above, -⟩ := Frame.hasByte_iff.mp has
  exact ⟨left, above⟩

theorem Shows.bounds (shows : Shows f p) : p.1 ≤ f.width ∧ p.2 ≤ f.height := by
  obtain ⟨left, top, bright⟩ := shows
  have inside := bright_inside bright
  omega

theorem Shows.onBright (shows : Shows f p) : OnBright f (pointOf p) := by
  obtain ⟨left, top, bright⟩ := shows
  have inside := bright_inside bright
  have column : ((p.1 : Int) - 1).toNat = p.1 - 1 := by omega
  have row : ((p.2 : Int) - 1).toNat = p.2 - 1 := by omega
  refine ⟨?_, ?_⟩
  · simp only [Point.IsInside, pointOf]
    omega
  · rwa [pointOf, column, row]

namespace Grid

theorem get_set {x y x' y' : Nat} (m : Mark) (column : x < g.size) (column' : x' < g.size)
    (row : y * g.size + x < g.marks.size) :
    (g.set x y m).get x' y' = if x' = x ∧ y' = y then m else g.get x' y' := by
  obtain ⟨size, marks⟩ := g
  simp only [get, set, Array.getD_eq_getD_getElem?] at *
  by_cases here : x' = x ∧ y' = y
  · obtain ⟨rfl, rfl⟩ := here
    simp [row]
  · have apart : y * size + x ≠ y' * size + x' := by
      intro same
      obtain ⟨sameRow, sameColumn⟩ := places_unique column column' same
      exact here ⟨sameColumn.symm, sameRow.symm⟩
    rw [if_neg here, Array.getElem?_setIfInBounds_ne apart]

/-- A mark on a pixel that has one changes no picture. -/
theorem pictures_set (pictures : g.Pictures f) (shows : Shows f p) {m : Mark}
    (marked : m ≠ .blank) :
    (g.set p.1 p.2 m).Pictures f where
  size := pictures.size
  marks := by
    have same : (g.set p.1 p.2 m).marks.size = g.marks.size := by simp [set]
    rw [same, pictures.marks]
  set_iff x left y above := by
    have bounds := shows.bounds
    rw [get_set m (by rw [pictures.size]; omega) (by rw [pictures.size]; omega) (by
      rw [pictures.size, pictures.marks]
      exact place_lt (by omega) (by omega))]
    split
    · next here =>
      obtain ⟨rfl, rfl⟩ := here
      exact iff_of_true marked shows
    · exact pictures.set_iff x left y above

theorem pictures_ofFrame (f : Frame) : (ofFrame f).Pictures f where
  size := rfl
  marks := by simp [ofFrame]
  set_iff x left y above := by
    have place : y * (f.width + 2) + x < (f.height + 2) * (f.width + 2) :=
      place_lt (by omega) (by omega)
    have column : (y * (f.width + 2) + x) % (f.width + 2) = x := by
      rw [Nat.mul_add_mod_self_right, Nat.mod_eq_of_lt (by omega)]
    have row : (y * (f.width + 2) + x) / (f.width + 2) = y := by
      rw [Nat.mul_comm, Nat.mul_add_div (by omega), Nat.div_eq_of_lt (by omega), Nat.add_zero]
    simp only [ofFrame, get, Array.getD_eq_getD_getElem?, Array.getElem?_ofFn, place, dif_pos,
      Option.getD_some, column, row, Bool.or_eq_true, decide_eq_true_eq, beq_iff_eq]
    constructor
    · intro marked
      split at marked
      · exact absurd rfl marked
      · next inner =>
        split at marked
        · exact absurd rfl marked
        · next bright => exact ⟨by simp only; omega, by simp only; omega, bright⟩
    · rintro ⟨fromLeft, fromTop, bright⟩
      simp only at fromLeft fromTop bright
      rw [if_neg (by omega), if_neg bright]
      decide

end Grid

theorem isSet_iff (pictures : g.Pictures f) {q : Nat × Nat} (column : q.1 ≤ f.width + 1)
    (row : q.2 ≤ f.height + 1) : g.isSet q = true ↔ Shows f q := by
  rw [Grid.isSet, bne_iff_ne]
  exact pictures.set_iff q.1 column q.2 row

theorem pictures_markLeft (pictures : g.Pictures f) (shows : Shows f p) (entered s : Nat) :
    (markLeft g p entered s).Pictures f := by
  unfold markLeft
  split
  · exact Grid.pictures_set pictures shows (by decide)
  · split
    · exact Grid.pictures_set pictures shows (by decide)
    · exact pictures

theorem neighbour_mod (p : Nat × Nat) (s : Nat) : neighbour p (s % 8) = neighbour p s := by
  unfold neighbour
  rw [Nat.mod_mod]

def heading (s : Nat) : Point :=
  match s % 8 with
  | 0 => ⟨1, 0⟩
  | 1 => ⟨1, -1⟩
  | 2 => ⟨0, -1⟩
  | 3 => ⟨-1, -1⟩
  | 4 => ⟨-1, 0⟩
  | 5 => ⟨-1, 1⟩
  | 6 => ⟨0, 1⟩
  | _ => ⟨1, 1⟩

theorem eight_cases (s : Nat) :
    s % 8 = 0 ∨ s % 8 = 1 ∨ s % 8 = 2 ∨ s % 8 = 3 ∨ s % 8 = 4 ∨ s % 8 = 5 ∨
    s % 8 = 6 ∨ s % 8 = 7 := by
  omega

theorem neighbour_heading (p : Nat × Nat) (left : 1 ≤ p.1) (top : 1 ≤ p.2) (s : Nat) :
    pointOf (neighbour p s) = ⟨(pointOf p).x + (heading s).x, (pointOf p).y + (heading s).y⟩ := by
  obtain ⟨x, y⟩ := p
  simp only at left top
  rcases eight_cases s with d | d | d | d | d | d | d | d <;>
    simp only [neighbour, heading, pointOf, d, Point.mk.injEq] <;> omega

theorem neighbour_back (p : Nat × Nat) (left : 1 ≤ p.1) (top : 1 ≤ p.2) (s : Nat) :
    neighbour (neighbour p s) ((s + 4) % 8) = p := by
  obtain ⟨x, y⟩ := p
  simp only at left top
  rw [neighbour_mod]
  rcases eight_cases s with d | d | d | d | d | d | d | d <;>
    simp only [neighbour, d, Nat.add_mod s 4 8, Prod.mk.injEq, and_true, true_and] <;> omega

theorem neighbour_near (shows : Shows f p) (s : Nat) :
    (neighbour p s).1 ≤ f.width + 1 ∧ (neighbour p s).2 ≤ f.height + 1 := by
  have bounds := shows.bounds
  obtain ⟨x, y⟩ := p
  simp only at bounds
  rcases eight_cases s with d | d | d | d | d | d | d | d <;> simp only [neighbour, d] <;> omega

theorem shows_neighbour (pictures : g.Pictures f) (shows : Shows f p) {s : Nat}
    (isSet : g.isSet (neighbour p s) = true) : Shows f (neighbour p s) := by
  obtain ⟨column, row⟩ := neighbour_near shows s
  exact (isSet_iff pictures column row).mp isSet

theorem firstSet_isSet {s n k : Nat} (within : k ≤ n)
    (isSet : g.isSet (neighbour p (s + k)) = true) :
    g.isSet (neighbour p (firstSet g p s n)) = true := by
  induction n generalizing s k with
  | zero =>
      obtain rfl : k = 0 := by omega
      exact isSet
  | succ n ih =>
      unfold firstSet
      split
      · next here => exact here
      · next notHere =>
        cases k with
        | zero => exact absurd isSet notHere
        | succ k =>
            refine ih (k := k) (by omega) ?_
            rwa [Nat.add_assoc, Nat.add_comm 1 k]

/-- One step along a border: it leads to a pixel that is not zero, and back again, whatever mark is
left. -/
theorem follow_step (pictures : g.Pictures f) (shows : Shows f p) {entered : Nat}
    (isDirection : entered < 8) (came : g.isSet (neighbour p entered) = true) :
    let s := firstSet g p (entered + 1) (14 - entered) % 8
    Shows f (neighbour p s) ∧ (markLeft g p entered s).Pictures f ∧
      (markLeft g p entered s).isSet (neighbour (neighbour p s) ((s + 4) % 8)) = true := by
  intro s
  have again : g.isSet (neighbour p (entered + 1 + 7)) = true := by
    have same : neighbour p (entered + 1 + 7) = neighbour p entered := by
      rw [← neighbour_mod p (entered + 1 + 7), ← neighbour_mod p entered]
      congr 1
      omega
    rwa [same]
  have found : g.isSet (neighbour p s) = true := by
    rw [neighbour_mod]
    exact firstSet_isSet (by omega) again
  have marked := pictures_markLeft pictures shows entered s
  refine ⟨shows_neighbour pictures shows found, marked, ?_⟩
  rw [neighbour_back p shows.left shows.top]
  have bounds := shows.bounds
  exact (isSet_iff marked (by omega) (by omega)).mpr shows

theorem follow_bright (start last : Nat × Nat) (fuel : Nat) {entered : Nat} (before : Nat)
    (pictures : g.Pictures f) (shows : Shows f p) (isDirection : entered < 8)
    (came : g.isSet (neighbour p entered) = true) :
    (∀ q ∈ (follow start last fuel g p entered before).1, OnBright f q) ∧
      (follow start last fuel g p entered before).2.Pictures f := by
  induction fuel generalizing g p entered before with
  | zero => exact ⟨by simp [follow], pictures⟩
  | succ fuel ih =>
      obtain ⟨next, marked, back⟩ := follow_step pictures shows isDirection came
      have kept (s : Nat) : ∀ q ∈ (if s == before then [] else [pointOf p]), OnBright f q := by
        intro q member
        split at member
        · cases member
        · exact List.mem_singleton.mp member ▸ shows.onBright
      obtain ⟨rest, grid⟩ := ih (firstSet g p (entered + 1) (14 - entered) % 8) marked next
        (Nat.mod_lt _ (by decide)) back
      unfold follow
      simp only
      split
      · exact ⟨kept _, marked⟩
      · refine ⟨fun q member => ?_, grid⟩
        rcases List.mem_append.mp member with here | later
        · exact kept _ q here
        · exact rest q later

/-- The point is so many steps ahead of another in a direction. -/
def IsAhead (start : Point) (direction steps : Nat) (q : Point) : Prop :=
  q = ⟨start.x + steps * (heading direction).x, start.y + steps * (heading direction).y⟩

/-- No straight way stays in a picture for longer than the picture is wide or high. -/
theorem ahead_bound {start : Nat × Nat} {direction steps : Nat} (began : Shows f start)
    (shows : Shows f p) (ahead : IsAhead (pointOf start) direction steps (pointOf p)) :
    steps ≤ max f.width f.height := by
  have bounds := began.bounds
  have bounds' := shows.bounds
  obtain ⟨left, top, -⟩ := began
  obtain ⟨left', top', -⟩ := shows
  simp only [IsAhead, pointOf, Point.mk.injEq, heading] at ahead
  rcases eight_cases direction with d | d | d | d | d | d | d | d <;>
    simp only [d] at ahead <;> omega

theorem ahead_apart {start : Nat × Nat} {direction steps : Nat} (moved : 0 < steps) :
    ¬ IsAhead (pointOf start) direction steps (pointOf start) := by
  intro ahead
  simp only [IsAhead, pointOf, Point.mk.injEq, heading] at ahead
  rcases eight_cases direction with d | d | d | d | d | d | d | d <;>
    simp only [d] at ahead <;> omega

theorem ahead_step {start : Point} {direction steps : Nat} (shows : Shows f p)
    (ahead : IsAhead start direction steps (pointOf p)) :
    IsAhead start direction (steps + 1) (pointOf (neighbour p direction)) := by
  rw [IsAhead, neighbour_heading p shows.left shows.top, ahead, Nat.cast_add, Nat.cast_one]
  simp only [Point.mk.injEq]
  constructor <;> ring

/-- A border of which no point is kept has led straight ahead all the time. -/
theorem follow_straight {start last : Nat × Nat} (began : Shows f start) (fuel : Nat)
    {entered before : Nat} (pictures : g.Pictures f) (shows : Shows f p) (isDirection : entered < 8)
    (came : g.isSet (neighbour p entered) = true) {steps : Nat}
    (ahead : IsAhead (pointOf start) before steps (pointOf p))
    (empty : (follow start last fuel g p entered before).1 = []) :
    steps + fuel ≤ max f.width f.height := by
  induction fuel generalizing g p entered before steps with
  | zero => exact ahead_bound began shows ahead
  | succ fuel ih =>
      obtain ⟨next, marked, back⟩ := follow_step pictures shows isDirection came
      unfold follow at empty
      simp only at empty
      have straight : firstSet g p (entered + 1) (14 - entered) % 8 = before := by
        by_contra turns
        simp only [beq_eq_false_iff_ne.mpr turns, Bool.false_eq_true, if_false] at empty
        split at empty
        · simp at empty
        · simp at empty
      rw [straight] at next marked back empty
      have further := ahead_step shows ahead
      split at empty
      · next closed =>
        have returned : neighbour p before = start := by
          simpa using (Bool.and_eq_true_iff.mp closed).1
        rw [returned] at further
        exact absurd further (ahead_apart (Nat.succ_pos steps))
      · have rest := (List.append_eq_nil_iff.mp empty).2
        have bound := ih marked next (Nat.mod_lt _ (by decide)) back further rest
        omega

end HatReel.Contour
