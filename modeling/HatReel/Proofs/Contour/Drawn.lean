import HatReel.Proofs.Contour.Corners
import HatReel.Proofs.Contour.Scan
import Mathlib.Data.List.Forall2

/-! What becomes of a frame when the bright parts of a picture are drawn on it.

The polygons are those of the contours, one each, and their corners are bright pixels of the
picture. The pixels on their sides, and among them all corners, turn blue; nothing else changes. -/

namespace HatReel.Contour

open HatReel.Draw HatReel.Image HatReel.Image.Frame

theorem forall₂_mapM {α β : Type} {f : α → Option β} {as : List α} {bs : List β}
    (mapped : as.mapM f = some bs) : List.Forall₂ (fun a b => f a = some b) as bs := by
  induction as generalizing bs with
  | nil =>
      cases mapped
      exact .nil
  | cons a rest ih =>
      rw [List.mapM_cons] at mapped
      obtain ⟨b, isFirst, tail⟩ := Option.bind_eq_some_iff.mp mapped
      obtain ⟨others, isRest, same⟩ := Option.bind_eq_some_iff.mp tail
      cases same
      exact .cons isFirst (ih isRest)

structure IsPolygon (f : Frame) (ratio : Float) (contour polygon : List Point) : Prop where
  near : approximate? contour ratio = some polygon
  filled : polygon ≠ []
  corners : ∀ q ∈ polygon, q ∈ contour ∧ OnBright f q

/-- Every contour has its polygon, and there are none exactly if no pixel is bright. -/
theorem polygons_found {f : Frame} {ratio : Float} {found polygons : List (List Point)}
    (isFound : contours? f = some found)
    (approximated : found.mapM (fun c => approximate? c ratio) = some polygons) :
    List.Forall₂ (IsPolygon f ratio) found polygons ∧
      (polygons = [] ↔ ∀ x y, f.byte x y 0 = 0) := by
  obtain ⟨contours, dark⟩ := contours_found isFound
  have each := forall₂_mapM approximated
  constructor
  · rw [List.forall₂_iff_get] at each ⊢
    refine ⟨each.1, fun i left right => ?_⟩
    have near := each.2 i left right
    obtain ⟨filled, bright⟩ := contours _ (List.get_mem found ⟨i, left⟩)
    obtain ⟨filled, corners⟩ := simplify?_part filled near
    exact ⟨near, filled, fun q member => ⟨corners q member, bright q (corners q member)⟩⟩
  · rw [← dark, ← List.length_eq_zero_iff, ← List.length_eq_zero_iff, each.length_eq]

theorem painted_colour {f : Frame} {k : Colour} {ps : List Point} {x y : Nat} (left : x < f.width)
    (above : y < f.height) (member : ⟨x, y⟩ ∈ ps) : (paintPoints f k ps).IsColour k x y := by
  intro c channel
  rw [(sameSize_paintPoints f k ps).channels] at channel
  rw [byte_paintPoints, if_pos ⟨member, hasByte_iff.mpr ⟨left, above, channel⟩⟩]

theorem painted_cases (f : Frame) (k : Colour) (ps : List Point) (x y : Nat) :
    SamePixel f (paintPoints f k ps) x y ∨ (paintPoints f k ps).IsColour k x y := by
  by_cases painted : ⟨x, y⟩ ∈ ps ∧ x < f.width ∧ y < f.height
  · exact .inr (painted_colour painted.2.1 painted.2.2 painted.1)
  · left
    intro c
    rw [byte_paintPoints, if_neg]
    rintro ⟨member, has⟩
    obtain ⟨left, above, -⟩ := hasByte_iff.mp has
    exact painted ⟨member, left, above⟩

theorem corner_colour {f : Frame} {k : Colour} {polygons : List (List Point)} {p : List Point}
    {q : Point} (isPolygon : p ∈ polygons) (inside : ∀ q ∈ p, q.IsInside f.width f.height)
    (isCorner : q ∈ p) :
    (paintPoints f k (polygons.flatMap (outline f.width f.height))).IsColour k
      q.x.toNat q.y.toNat := by
  have drawn : q ∈ polygons.flatMap (outline f.width f.height) :=
    List.mem_flatMap.mpr ⟨p, isPolygon, corners_drawn inside isCorner⟩
  obtain ⟨⟨left, right⟩, top, bottom⟩ := inside q isCorner
  refine painted_colour (by omega) (by omega) ?_
  rwa [Int.toNat_of_nonneg left, Int.toNat_of_nonneg top]

/-- The bright parts of a picture, drawn onto a frame of its size: each contour has one polygon,
with corners that are points of the contour, in the picture and bright, and without bright pixels
there is none. Every pixel of the frame stays as it is or turns blue, and the corners turn blue. The
picture is only read: drawing its bright parts again finds the same polygons and changes nothing any
more. -/
theorem drawContours_blue {f gray g : Frame} {style : Style} {polygons : List (List Point)}
    (width : f.width = gray.width) (height : f.height = gray.height)
    (drawn : drawContours? f gray style = some (polygons, g)) :
    let bright := gray.binarize style.threshold style.maximum
    (∃ found, contours? bright = some found ∧
      List.Forall₂ (IsPolygon bright style.ratio) found polygons) ∧
    (polygons = [] ↔ ∀ x y, bright.byte x y 0 = 0) ∧
    (SameSize f g ∧ ∀ x y, SamePixel f g x y ∨ g.IsColour blue x y) ∧
    (∀ p ∈ polygons, ∀ q ∈ p, g.IsColour blue q.x.toNat q.y.toNat) ∧
    drawContours? g gray style = some (polygons, g) := by
  intro bright
  obtain ⟨_, isPolygons, same⟩ := Option.map_eq_some_iff.mp drawn
  cases same
  have again := isPolygons
  obtain ⟨found, isFound, approximated⟩ := Option.bind_eq_some_iff.mp isPolygons
  obtain ⟨each, dark⟩ := polygons_found isFound approximated
  have size := sameSize_drawPolygons f polygons
  have painted := drawPolygons_eq f polygons
  refine ⟨⟨found, isFound, each⟩, dark, ⟨size, fun x y => ?_⟩, ?_, ?_⟩
  · rw [painted]
    exact painted_cases f blue _ x y
  · intro p isPolygon q isCorner
    obtain ⟨i, bound, rfl⟩ := List.getElem_of_mem isPolygon
    have corners := ((List.forall₂_iff_get.mp each).2 i (each.length_eq ▸ bound) bound).corners
    rw [painted]
    refine corner_colour isPolygon (fun r member => ?_) isCorner
    rw [width, height]
    exact (corners r member).2.1
  · have settled : drawPolygons (drawPolygons f polygons) polygons = drawPolygons f polygons := by
      rw [drawPolygons_eq (drawPolygons f polygons), size.width, size.height, painted,
        paintPoints_again]
    rw [drawContours?, again, Option.map_some, settled]

def ringPicture : Frame := Frame.generate 6 6 1 fun x y _ =>
  if 1 ≤ x ∧ x ≤ 4 ∧ 1 ≤ y ∧ y ≤ 4 ∧ ¬(2 ≤ x ∧ x ≤ 3 ∧ 2 ≤ y ∧ y ≤ 3) then 200 else 0

def blackCanvas : Frame := Frame.generate 6 6 3 fun _ _ _ => 0

theorem drawContours_blue_ring : ∃ found polygons g,
    contours? (ringPicture.binarize 64.0 255.0) = some found ∧ found.map List.length = [8, 4] ∧
      drawContours? blackCanvas ringPicture ⟨64.0, 255.0, 0.1⟩ = some (polygons, g) ∧
      polygons = [[⟨1, 2⟩, ⟨3, 1⟩, ⟨4, 3⟩, ⟨2, 4⟩], [⟨1, 1⟩, ⟨1, 4⟩, ⟨4, 4⟩, ⟨4, 1⟩]] ∧
      ∀ p ∈ polygons, ∀ q ∈ p, g.IsColour blue q.x.toNat q.y.toNat := by
  have draws : (drawContours? blackCanvas ringPicture ⟨64.0, 255.0, 0.1⟩).map Prod.fst =
      some [[⟨1, 2⟩, ⟨3, 1⟩, ⟨4, 3⟩, ⟨2, 4⟩], [⟨1, 1⟩, ⟨1, 4⟩, ⟨4, 4⟩, ⟨4, 1⟩]] := by decide +kernel
  have lengths : (contours? (ringPicture.binarize 64.0 255.0)).map (·.map List.length) =
      some [8, 4] := by decide +kernel
  obtain ⟨⟨polygons, g⟩, drawn, isPolygons⟩ := Option.map_eq_some_iff.mp draws
  have width : blackCanvas.width = ringPicture.width := rfl
  have height : blackCanvas.height = ringPicture.height := rfl
  obtain ⟨⟨found, isFound, -⟩, -, -, corners, -⟩ := drawContours_blue width height drawn
  rw [isFound] at lengths
  exact ⟨found, polygons, g, isFound, Option.some.inj lengths, drawn, isPolygons, corners⟩

end HatReel.Contour
