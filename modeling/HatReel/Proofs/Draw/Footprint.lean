import HatReel.Proofs.Draw.Filling
import HatReel.Proofs.Image.Pixels

/-! The footprint of a face.

A drawing changes only pixels of an area if each of its strokes does. A stroke of a box or a hat
changes pixels near a rectangle that holds its ends, and the inside of a hat is near the rectangle
of its corners. So faces that are marked on a frame leave everything alone that is neither near the
outline of a box nor near a hat. -/

namespace HatReel.Draw

open HatReel.Image HatReel.Image.Frame

def ChangedIn (area : Point → Prop) (f g : Frame) : Prop :=
  ∀ x y : Nat, ¬ area ⟨x, y⟩ → SamePixel f g x y

section

variable {area wider : Point → Prop} {f g h : Frame}

theorem ChangedIn.refl (area : Point → Prop) (f : Frame) : ChangedIn area f f := fun _ _ _ _ => rfl

theorem ChangedIn.trans (first : ChangedIn area f g) (second : ChangedIn area g h) :
    ChangedIn area f h :=
  fun x y outside c => (second x y outside c).trans (first x y outside c)

theorem ChangedIn.mono (changed : ChangedIn area f g) (within : ∀ p, area p → wider p) :
    ChangedIn wider f g :=
  fun x y outside => changed x y fun inside => outside (within _ inside)

/-- What each step leaves alone, a sequence of steps leaves alone. -/
theorem changedIn_foldl {α : Type} {step : Frame → α → Frame} {as : List α}
    (each : ∀ a ∈ as, ∀ f, ChangedIn area f (step f a)) (f : Frame) :
    ChangedIn area f (as.foldl step f) := by
  induction as generalizing f with
  | nil => exact .refl area f
  | cons a rest ih =>
      obtain ⟨here, later⟩ := List.forall_mem_cons.mp each
      exact (here f).trans (ih later (step f a))

theorem changedIn_changeChannels {x y : Nat} {g : Nat → UInt8 → UInt8}
    (inside : (∀ c v, g c v = v) ∨ area ⟨x, y⟩) (f : Frame) (c n : Nat) :
    ChangedIn area f (f.changeChannels x y g c n) := by
  induction n generalizing f c with
  | zero => exact .refl area f
  | succ n ih =>
      refine ChangedIn.trans (fun x' y' outside c' => ?_) (ih _ (c + 1))
      rw [byte_setByte]
      split
      · next here =>
        obtain ⟨⟨rfl, rfl, rfl⟩, -⟩ := here
        exact inside.resolve_right outside c' _
      · rfl

theorem changedIn_paint {x y : Nat} (inside : area ⟨x, y⟩) (f : Frame) (k : Colour) :
    ChangedIn area f (f.paint k x y) :=
  changedIn_changeChannels (.inr inside) f 0 _

theorem mix_zero (value : Int) (v : UInt8) : mix value 0 v = v := by
  simp [mix]

theorem changedIn_touch {t : Touch} (inside : t.strength = 0 ∨ area t.place ∧ 0 ≤ t.x ∧ 0 ≤ t.y)
    (f : Frame) (k : Colour) : ChangedIn area f (touch f k t) := by
  refine changedIn_changeChannels
    (inside.imp (fun faint c v => ?_) fun ⟨inside, left, top⟩ => ?_) f 0 _
  · rw [faint, mix_zero]
  · rwa [Int.toNat_of_nonneg left, Int.toNat_of_nonneg top]

/-- A rectangle small enough for what is drawn in it: shares of its sides are computed well, and
over its rows the rounding of an edge's steps stays below a pixel. -/
def Extent.IsModest (e : Extent) : Prop := e.right - e.left ≤ 2 ^ 24 ∧ e.bottom - e.top ≤ 32768

theorem Extent.IsModest.small {e : Extent} (modest : e.IsModest) : e.scaled.IsSmall := by
  obtain ⟨wide, high⟩ := modest
  constructor <;> simp only [Extent.scaled, one] <;> omega

theorem drawSmooth_near {e : Extent} {s : Segment} (modest : e.IsModest) (first : e.Holds s.a)
    (second : e.Holds s.b) (f : Frame) (k : Colour) :
    ChangedIn (Near e.Holds) f (drawSmooth f k s) :=
  changedIn_foldl (fun _ member f =>
    changedIn_touch (smoothTouches_near modest.small first.scaled second.scaled member) f k) f

def Segment.extent (s : Segment) : Extent :=
  ⟨min s.a.x s.b.x, min s.a.y s.b.y, max s.a.x s.b.x, max s.a.y s.b.y⟩

theorem Segment.extent_holds (s : Segment) : s.extent.Holds s.a ∧ s.extent.Holds s.b := by
  unfold Segment.extent
  refine ⟨⟨?_, ?_, ?_, ?_⟩, ⟨?_, ?_, ?_, ?_⟩⟩ <;> dsimp only <;> omega

/-- An outline stays in an area if each of its sides is in a rectangle that the area surrounds. -/
theorem drawOutline_in {ps : List Point}
    (each : ∀ s ∈ List.zipWith Segment.mk (ps.rotateRight 1) ps, ∃ e : Extent,
      e.IsModest ∧ (e.Holds s.a ∧ e.Holds s.b) ∧ ∀ p, Near e.Holds p → area p)
    (f : Frame) (k : Colour) : ChangedIn area f (drawOutline f k ps) := by
  refine changedIn_foldl (fun s member f => ?_) f
  obtain ⟨e, modest, ⟨first, second⟩, within⟩ := each s member
  exact (drawSmooth_near modest first second f k).mono within

theorem paintSpan_near {e : Extent} {s : Span} (near : s.Near e) (held : e.left ≤ e.right)
    (f : Frame) (k : Colour) :
    ChangedIn (Near e.Holds) f (paintSpan f k s) := by
  refine changedIn_foldl (fun x member f => changedIn_paint ?_ f k) f
  obtain ⟨top, bottom, first, last⟩ := near
  rw [List.mem_range'_1] at member
  refine ⟨⟨max e.left (min x e.right), s.y⟩, ?_, ?_⟩
  · constructor <;> dsimp only <;> omega
  · dsimp only
    omega

theorem mem_rotateRight {p : Point} {ps : List Point} {n : Nat} (member : p ∈ ps.rotateRight n) :
    p ∈ ps := by
  unfold List.rotateRight at member
  simp only at member
  split at member
  · exact member
  · rwa [List.mem_append, or_comm, ← List.mem_append, List.take_append_drop] at member

theorem outline_ends {ps : List Point} {s : Segment}
    (member : s ∈ List.zipWith Segment.mk (ps.rotateRight 1) ps) : s.a ∈ ps ∧ s.b ∈ ps := by
  obtain ⟨i, bound, rfl⟩ := List.getElem_of_mem member
  rw [List.getElem_zipWith]
  exact ⟨mem_rotateRight (List.getElem_mem _), List.getElem_mem _⟩

theorem fillPolygon_near {e : Extent} {ps : List Point} (modest : e.IsModest) (filled : ps ≠ [])
    (inside : ∀ p ∈ ps, e.Holds p) (f : Frame) (k : Colour) :
    ChangedIn (Near e.Holds) f (fillPolygon f k ps) := by
  have outlined : ChangedIn (Near e.Holds) f (drawOutline f k ps) := by
    refine drawOutline_in (fun s member => ?_) f k
    obtain ⟨first, second⟩ := outline_ends member
    exact ⟨e, modest, ⟨inside _ first, inside _ second⟩, fun _ near => near⟩
  refine outlined.trans (changedIn_foldl (fun s member f => ?_) _)
  obtain ⟨p, rest, rfl⟩ := List.exists_cons_of_ne_nil filled
  have held := inside p List.mem_cons_self
  exact paintSpan_near (fillSpans_near filled inside modest.2 member)
    (held.left.trans held.right) f k

end

structure Rect.Contains (r : Rect) (p : Point) : Prop where
  left : r.x ≤ p.x
  right : p.x ≤ r.x + r.width
  top : r.y ≤ p.y
  bottom : p.y ≤ r.y + r.height

def Rect.OnOutline (r : Rect) (p : Point) : Prop :=
  r.Contains p ∧ (p.x = r.x ∨ p.x = r.x + r.width ∨ p.y = r.y ∨ p.y = r.y + r.height)

/-- A point more than two pixels inside the box. -/
structure Rect.IsDeep (r : Rect) (p : Point) : Prop where
  left : r.x + 2 < p.x
  right : p.x < r.x + r.width - 2
  top : r.y + 2 < p.y
  bottom : p.y < r.y + r.height - 2

/-- A point of the smallest rectangle that holds all corners. -/
structure Bounded (ps : List Point) (q : Point) : Prop where
  left : ∃ p ∈ ps, p.x ≤ q.x
  right : ∃ p ∈ ps, q.x ≤ p.x
  top : ∃ p ∈ ps, p.y ≤ q.y
  bottom : ∃ p ∈ ps, q.y ≤ p.y

def Rect.Marks (r : Rect) (p : Point) : Prop := Near r.OnOutline p ∨ Near (Bounded r.hat) p

section

variable {r : Rect} {width height : Nat} (inside : r.IsInside width height)
  (narrow : width ≤ warpLimit) (low : height ≤ warpLimit)

include inside narrow low

theorem box_footprint (f : Frame) (k : Colour) :
    ChangedIn (Near r.OnOutline) f (drawOutline f k r.corners) := by
  obtain ⟨left, top, wide, high, right, bottom⟩ := inside
  unfold warpLimit at narrow low
  refine drawOutline_in (fun s member => ?_) f k
  change s ∈ [⟨⟨r.x, r.y + r.height⟩, ⟨r.x, r.y⟩⟩, ⟨⟨r.x, r.y⟩, ⟨r.x + r.width, r.y⟩⟩,
    ⟨⟨r.x + r.width, r.y⟩, ⟨r.x + r.width, r.y + r.height⟩⟩,
    ⟨⟨r.x + r.width, r.y + r.height⟩, ⟨r.x, r.y + r.height⟩⟩] at member
  simp only [List.mem_cons, List.not_mem_nil, or_false] at member
  have side : ((r.x ≤ s.extent.left ∧ s.extent.right ≤ r.x + r.width) ∧
      r.y ≤ s.extent.top ∧ s.extent.bottom ≤ r.y + r.height) ∧
      (s.extent.right = r.x ∨ s.extent.left = r.x + r.width ∨ s.extent.bottom = r.y ∨
        s.extent.top = r.y + r.height) := by
    unfold Segment.extent
    rcases member with rfl | rfl | rfl | rfl <;> dsimp only <;> omega
  refine ⟨s.extent, ⟨by omega, by omega⟩, s.extent_holds, fun p near => near.mono fun q holds => ?_⟩
  obtain ⟨left', right', top', bottom'⟩ := holds
  exact ⟨⟨by omega, by omega, by omega, by omega⟩, by omega⟩

theorem hat_footprint (f : Frame) (k : Colour) :
    ChangedIn (Near (Bounded r.hat)) f (fillPolygon f k r.hat) := by
  obtain ⟨left, top, wide, high, right, bottom⟩ := inside
  unfold warpLimit at narrow low
  have rising : 0 ≤ r.width / 10 ∧ r.height / 10 ≤ r.height / 2 := by omega
  let e : Extent :=
    ⟨r.x - r.width / 10, r.y - r.height / 2, r.x + r.width * 11 / 10, r.y - r.height / 10⟩
  have modest : e.IsModest := by
    constructor <;> simp only [e] <;> omega
  have held : ∀ p ∈ r.hat, e.Holds p := by
    rw [r.hat_eq]
    simp only [List.forall_mem_cons, List.not_mem_nil]
    refine ⟨?_, ?_, ?_, fun _ never => never.elim⟩ <;> constructor <;> simp only [e] <;> omega
  refine (fillPolygon_near modest (List.cons_ne_nil _ _) held f k).mono fun p near =>
    near.mono fun q inside => ?_
  rw [r.hat_eq]
  obtain ⟨left', right', top', bottom'⟩ := inside
  exact ⟨⟨_, .head _, left'⟩, ⟨_, .tail _ (.head _), right'⟩,
    ⟨_, .tail _ (.tail _ (.head _)), top'⟩, ⟨_, .head _, bottom'⟩⟩

theorem drawFace_footprint (f : Frame) : ChangedIn r.Marks f (drawFace f r).1 := by
  unfold drawFace
  rw [boxFits_inside inside narrow low, if_pos rfl, hat_inside inside narrow low]
  exact ((box_footprint inside narrow low f red).mono fun _ => .inl).trans
    ((hat_footprint inside narrow low _ green).mono fun _ => .inr)

end

theorem drawFaces_changedIn {faces : List Rect} {width height : Nat}
    (inside : ∀ r ∈ faces, r.IsInside width height) (narrow : width ≤ warpLimit)
    (low : height ≤ warpLimit) (f : Frame) :
    ChangedIn (fun p => ∃ r ∈ faces, r.Marks p) f (drawFaces f faces).1 := by
  induction faces generalizing f with
  | nil => exact .refl _ f
  | cons r rest ih =>
      have here := List.mem_cons_self (a := r) (l := rest)
      have drawn := drawFace_inside (inside r here) narrow low f
      have changed := drawFace_footprint (inside r here) narrow low f
      unfold drawFaces
      rcases step : drawFace f r with ⟨marked, fault⟩
      rw [step] at drawn changed
      cases drawn
      refine (changed.mono fun p marks => ⟨r, here, marks⟩).trans ?_
      refine (ih (fun other member => inside other (List.mem_cons_of_mem r member)) marked).mono ?_
      rintro p ⟨other, member, marks⟩
      exact ⟨other, List.mem_cons_of_mem r member, marks⟩

/-- The hat is above the box, so what is deep in the box is away from both. -/
theorem deep_unmarked {r : Rect} {p : Point} (high : 0 ≤ r.height) (deep : r.IsDeep p) :
    ¬ r.Marks p := by
  obtain ⟨left, right, top, bottom⟩ := deep
  rintro (⟨q, ⟨-, on⟩, close⟩ | ⟨q, bounded, close⟩)
  · omega
  · obtain ⟨corner, member, below⟩ := bounded.bottom
    simp only [r.hat_eq, List.mem_cons, List.not_mem_nil, or_false] at member
    rcases member with rfl | rfl | rfl <;> dsimp only at below <;> omega

/-- Faces that lie inside a frame are marked without a fault, and the frame keeps its size. Only
pixels at most two away from the outline of a box, or from the rectangle of a hat's corners, change;
in particular those that are deeper inside of every box stay as they are. -/
theorem drawFaces_footprint {f : Frame} {faces : List Rect} (narrow : f.width ≤ warpLimit)
    (low : f.height ≤ warpLimit) (inside : ∀ r ∈ faces, r.IsInside f.width f.height) :
    (drawFaces f faces).2 = none ∧
    SameSize f (drawFaces f faces).1 ∧
    (∀ x y : Nat, (∀ r ∈ faces, ¬ Near r.OnOutline ⟨x, y⟩ ∧ ¬ Near (Bounded r.hat) ⟨x, y⟩) →
      SamePixel f (drawFaces f faces).1 x y) ∧
    ∀ x y : Nat, (∀ r ∈ faces, r.IsDeep ⟨x, y⟩) → SamePixel f (drawFaces f faces).1 x y := by
  have changed := drawFaces_changedIn inside narrow low f
  refine ⟨drawFaces_inside inside narrow low f, sameSize_drawFaces f faces, fun x y away => ?_,
    fun x y deep => ?_⟩
  · refine changed x y ?_
    rintro ⟨r, member, outline | hat⟩
    · exact (away r member).1 outline
    · exact (away r member).2 hat
  · refine changed x y ?_
    rintro ⟨r, member, marks⟩
    exact deep_unmarked (inside r member).high (deep r member) marks

def darkFrame : Frame := Frame.generate 8 8 3 fun _ _ _ => 0

def borderFaces : List Rect := [⟨1, 1, 7, 7⟩, ⟨2, 2, 6, 6⟩]

theorem drawFaces_footprint_border :
    (darkFrame.width ≤ warpLimit ∧ darkFrame.height ≤ warpLimit ∧
      ∀ r ∈ borderFaces, r.IsInside darkFrame.width darkFrame.height) ∧
    (drawFaces darkFrame borderFaces).2 = none ∧
    SamePixel darkFrame (drawFaces darkFrame borderFaces).1 5 5 ∧
    ¬ SamePixel darkFrame (drawFaces darkFrame borderFaces).1 2 6 := by
  have narrow : darkFrame.width ≤ warpLimit := by decide
  have low : darkFrame.height ≤ warpLimit := by decide
  have inside : ∀ r ∈ borderFaces, r.IsInside darkFrame.width darkFrame.height := by
    simp only [borderFaces, List.forall_mem_cons, List.not_mem_nil]
    exact ⟨⟨by decide, by decide, by decide, by decide, by decide, by decide⟩,
      ⟨by decide, by decide, by decide, by decide, by decide, by decide⟩, fun _ never => never.elim⟩
  obtain ⟨drawn, -, -, deep⟩ := drawFaces_footprint narrow low inside
  refine ⟨⟨narrow, low, inside⟩, drawn, deep 5 5 ?_, fun same => ?_⟩
  · simp only [borderFaces, List.forall_mem_cons, List.not_mem_nil]
    exact ⟨⟨by decide, by decide, by decide, by decide⟩,
      ⟨by decide, by decide, by decide, by decide⟩, fun _ never => never.elim⟩
  · have red := same 2
    revert red
    decide +kernel

end HatReel.Draw
