import HatReel.Contour.Drawing
import HatReel.Draw.Face
import HatReel.Image.Warp

/-! No drawing changes the size of a frame, and faces inside a frame can be drawn. -/

namespace HatReel.Image

structure Frame.SameSize (f g : Frame) : Prop where
  width : g.width = f.width
  height : g.height = f.height
  channels : g.channels = f.channels

namespace Frame

theorem SameSize.refl (f : Frame) : SameSize f f := ⟨rfl, rfl, rfl⟩

theorem SameSize.trans {f g h : Frame} (first : SameSize f g) (second : SameSize g h) :
    SameSize f h :=
  ⟨second.width.trans first.width, second.height.trans first.height,
    second.channels.trans first.channels⟩

theorem SameSize.isEmpty {f g : Frame} (same : SameSize f g) : g.isEmpty = f.isEmpty := by
  unfold Frame.isEmpty
  rw [same.width, same.height]

/-- What each step keeps, a sequence of steps keeps. -/
theorem sameSize_foldl {α : Type} {step : Frame → α → Frame} (each : ∀ f a, SameSize f (step f a))
    (f : Frame) (as : List α) : SameSize f (as.foldl step f) := by
  induction as generalizing f with
  | nil => exact .refl f
  | cons a rest ih => exact (each f a).trans (ih (step f a))

theorem sameSize_setByte (f : Frame) (x y c : Nat) (v : UInt8) : SameSize f (f.setByte x y c v) :=
  ⟨setByte_width f x y c v, setByte_height f x y c v, setByte_channels f x y c v⟩

theorem sameSize_changeChannels (f : Frame) (x y : Nat) (g : Nat → UInt8 → UInt8) (c n : Nat) :
    SameSize f (f.changeChannels x y g c n) := by
  induction n generalizing f c with
  | zero => exact .refl f
  | succ n ih => exact (sameSize_setByte f x y c _).trans (ih _ (c + 1))

theorem sameSize_paint (f : Frame) (colour : Colour) (x y : Nat) :
    SameSize f (f.paint colour x y) :=
  sameSize_changeChannels f x y _ 0 _

theorem sameSize_warp (f : Frame) (m : Matrix Float) : SameSize f (f.warp m) := ⟨rfl, rfl, rfl⟩

end Frame

end HatReel.Image

namespace HatReel.Draw

open HatReel.Image HatReel.Image.Frame

theorem sameSize_touchAll (f : Frame) (colour : Colour) (ts : List Touch) :
    SameSize f (touchAll f colour ts) :=
  sameSize_foldl (fun f t => show SameSize f (touch f colour t) from
    sameSize_changeChannels f t.x.toNat t.y.toNat _ 0 _) f ts

theorem sameSize_drawOutline (f : Frame) (colour : Colour) (ps : List Point) :
    SameSize f (drawOutline f colour ps) :=
  sameSize_foldl (fun f _ => sameSize_touchAll f colour _) f _

theorem sameSize_paintSpan (f : Frame) (colour : Colour) (s : Span) :
    SameSize f (paintSpan f colour s) :=
  sameSize_foldl (fun f x => sameSize_paint f colour x s.y) f _

theorem sameSize_fillPolygon (f : Frame) (colour : Colour) (ps : List Point) :
    SameSize f (fillPolygon f colour ps) :=
  (sameSize_drawOutline f colour ps).trans
    (sameSize_foldl (fun f s => sameSize_paintSpan f colour s) _ _)

theorem sameSize_drawFace (f : Frame) (r : Rect) : SameSize f (drawFace f r).1 := by
  unfold drawFace
  split
  · have boxed := sameSize_drawOutline f red r.corners
    cases r.hat? with
    | ok hat => exact boxed.trans (sameSize_fillPolygon _ green hat)
    | error fault => exact boxed
  · exact .refl f

theorem sameSize_drawFaces (f : Frame) (faces : List Rect) : SameSize f (drawFaces f faces).1 := by
  induction faces generalizing f with
  | nil => exact .refl f
  | cons r rest ih =>
      have drawn := sameSize_drawFace f r
      unfold drawFaces
      rcases step : drawFace f r with ⟨marked, fault⟩
      rw [step] at drawn
      cases fault with
      | none => exact drawn.trans (ih marked)
      | some fault => exact drawn

theorem sameSize_paintPoint (f : Frame) (colour : Colour) (p : Point) :
    SameSize f (paintPoint f colour p) := by
  unfold paintPoint
  split
  · exact sameSize_paint f colour _ _
  · exact .refl f

theorem sameSize_drawPolygon (f : Frame) (colour : Colour) (ps : List Point) :
    SameSize f (drawPolygon f colour ps) :=
  sameSize_foldl (fun f _ => sameSize_foldl (fun f p => sameSize_paintPoint f colour p) f _) f _

theorem sameSize_drawPolygons (f : Frame) (ps : List (List Point)) :
    SameSize f (Contour.drawPolygons f ps) :=
  sameSize_foldl (fun f p => sameSize_drawPolygon f blue p) f ps

theorem sameSize_drawContours {f g gray : Frame} {style : Contour.Style} {ps : List (List Point)}
    (drawn : Contour.drawContours? f gray style = some (ps, g)) : SameSize f g := by
  unfold Contour.drawContours? at drawn
  obtain ⟨_, _, same⟩ := Option.map_eq_some_iff.mp drawn
  cases same
  exact sameSize_drawPolygons f _

structure Rect.IsInside (r : Rect) (width height : Nat) : Prop where
  left : 0 ≤ r.x
  top : 0 ≤ r.y
  wide : 0 ≤ r.width
  high : 0 ≤ r.height
  right : r.x + r.width ≤ width
  bottom : r.y + r.height ≤ height

theorem fitsWord_iff (n : Int) : fitsWord n = true ↔ -2147483648 ≤ n ∧ n ≤ 2147483647 := by
  simp [fitsWord]

/-- The hat's corners, by division as it is for numbers that are not negative. -/
theorem Rect.hat_eq (r : Rect) : r.hat = [
    ⟨r.x - r.width / 10, r.y - r.height / 10⟩, ⟨r.x + r.width * 11 / 10, r.y - r.height / 10⟩,
    ⟨r.x + r.width / 2, r.y - r.height / 2⟩] := by
  have tenth (n : Int) : n.fdiv 10 = n / 10 := Int.fdiv_eq_ediv_of_nonneg n (by decide)
  have half (n : Int) : n.fdiv 2 = n / 2 := Int.fdiv_eq_ediv_of_nonneg n (by decide)
  rw [Rect.hat, tenth, tenth, tenth, half, half]

section

variable {r : Rect} {width height : Nat} (inside : r.IsInside width height)
  (narrow : width ≤ warpLimit) (low : height ≤ warpLimit)

include inside narrow low

theorem boxFits_inside : r.boxFits = true := by
  obtain ⟨left, top, wide, high, right, bottom⟩ := inside
  unfold warpLimit at narrow low
  unfold Rect.boxFits
  rw [List.all_eq_true]
  simp only [coordinates, Rect.corners, List.flatMap_cons, List.flatMap_nil, List.cons_append,
    List.nil_append, List.forall_mem_cons, fitsWord_iff]
  refine ⟨?_, ?_, ?_, ?_, ?_, ?_, ?_, ?_, by simp⟩ <;> omega

theorem hat_inside : r.hat? = .ok r.hat := by
  obtain ⟨left, top, wide, high, right, bottom⟩ := inside
  unfold warpLimit at narrow low
  have fits : ∀ n ∈ coordinates r.hat, fitsWord n = true := by
    simp only [coordinates, Rect.hat_eq, List.flatMap_cons, List.flatMap_nil, List.cons_append,
      List.nil_append, List.forall_mem_cons, fitsWord_iff]
    refine ⟨?_, ?_, ?_, ?_, ?_, ?_, by simp⟩ <;> omega
  unfold Rect.hat?
  rw [List.find?_eq_none.mpr fun n member => by rw [fits n member]; decide]

/-- A face inside a picture that is not too large can be drawn, box and hat. -/
theorem drawFace_inside (f : Frame) : (drawFace f r).2 = none := by
  unfold drawFace
  rw [boxFits_inside inside narrow low, if_pos rfl, hat_inside inside narrow low]

end

theorem drawFaces_inside {faces : List Rect} {width height : Nat}
    (inside : ∀ r ∈ faces, r.IsInside width height) (narrow : width ≤ warpLimit)
    (low : height ≤ warpLimit) (f : Frame) : (drawFaces f faces).2 = none := by
  induction faces generalizing f with
  | nil => rfl
  | cons r rest ih =>
      have drawn := drawFace_inside (inside r List.mem_cons_self) narrow low f
      unfold drawFaces
      rcases step : drawFace f r with ⟨marked, fault⟩
      rw [step] at drawn
      cases drawn
      exact ih (fun other member => inside other (List.mem_cons_of_mem r member)) marked

end HatReel.Draw
