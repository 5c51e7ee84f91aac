import HatReel.Draw.Line
import HatReel.Proofs.Draw.Size
import Mathlib.Tactic.Ring

/-! Pixel by pixel: which bytes a drawing changes, and to what.

Painting a list of points gives its colour to the pixels of the list and leaves all others as they
are. All other facts about painted pictures follow from that. -/

namespace HatReel.Image

/-- A number in places of a given width is read in one way only. -/
theorem places_unique {width a b c d : Nat} (first : b < width) (second : d < width)
    (same : a * width + b = c * width + d) : a = c ∧ b = d := by
  have positive : 0 < width := Nat.zero_lt_of_lt first
  have quotients := congrArg (· / width) same
  have remainders := congrArg (· % width) same
  simp only [Nat.mul_add_mod_self_right, Nat.mod_eq_of_lt first,
    Nat.mod_eq_of_lt second] at remainders
  simp only [Nat.mul_comm _ width, Nat.mul_add_div positive, Nat.div_eq_of_lt first,
    Nat.div_eq_of_lt second, Nat.add_zero] at quotients
  exact ⟨quotients, remainders⟩

theorem place_lt {x y width height : Nat} (column : x < width) (row : y < height) :
    y * width + x < height * width := by
  calc y * width + x < y * width + width := by omega
    _ = (y + 1) * width := by ring
    _ ≤ height * width := Nat.mul_le_mul_right _ row

namespace Frame

theorem hasByte_iff {f : Frame} {x y c : Nat} :
    f.hasByte x y c = true ↔ x < f.width ∧ y < f.height ∧ c < f.channels := by
  simp [hasByte, and_assoc]

/-- Places of a frame that have bytes are told apart by where their bytes are. -/
theorem offset_unique {f : Frame} {x y c x' y' c' : Nat} (one : f.hasByte x y c = true)
    (other : f.hasByte x' y' c' = true) (same : f.offset x y c = f.offset x' y' c') :
    x = x' ∧ y = y' ∧ c = c' := by
  rw [hasByte_iff] at one other
  obtain ⟨sameRow, sameChannel⟩ := places_unique one.2.2 other.2.2 same
  obtain ⟨sameY, sameX⟩ := places_unique one.1 other.1 sameRow
  exact ⟨sameX, sameY, sameChannel⟩

theorem offset_lt {f : Frame} {x y c : Nat} (inside : f.hasByte x y c = true) :
    f.offset x y c < f.height * f.width * f.channels := by
  obtain ⟨left, above, channel⟩ := hasByte_iff.mp inside
  exact place_lt channel (place_lt left above)

theorem hasByte_setByte (f : Frame) (x y c : Nat) (v : UInt8) :
    (f.setByte x y c v).hasByte = f.hasByte := by
  funext x' y' c'
  simp [hasByte]

theorem offset_setByte (f : Frame) (x y c : Nat) (v : UInt8) :
    (f.setByte x y c v).offset = f.offset := by
  funext x' y' c'
  simp [offset]

theorem toArray_setByte {f : Frame} {x y c : Nat} (v : UInt8) (inside : f.hasByte x y c = true) :
    (f.setByte x y c v).bytes.toArray = f.bytes.toArray.setIfInBounds (f.offset x y c) v := by
  rw [setByte, if_pos inside]
  rfl

theorem byte_setByte (f : Frame) (x y c : Nat) (v : UInt8) (x' y' c' : Nat) :
    (f.setByte x y c v).byte x' y' c' =
      if (x' = x ∧ y' = y ∧ c' = c) ∧ f.hasByte x y c = true then v else f.byte x' y' c' := by
  cases inside : f.hasByte x y c with
  | false =>
      rw [setByte_outside v inside]
      simp
  | true =>
      rw [byte, byte, hasByte_setByte, offset_setByte, toArray_setByte v inside,
        Array.getD_eq_getD_getElem?, Array.getD_eq_getD_getElem?]
      by_cases here : x' = x ∧ y' = y ∧ c' = c
      · obtain ⟨rfl, rfl, rfl⟩ := here
        have bounds := offset_lt inside
        simp [inside, bounds]
      · simp only [here, false_and, if_false]
        cases has : f.hasByte x' y' c' with
        | false => rfl
        | true =>
            have apart : f.offset x y c ≠ f.offset x' y' c' := by
              intro same
              obtain ⟨rfl, rfl, rfl⟩ := offset_unique inside has same
              exact here ⟨rfl, rfl, rfl⟩
            rw [Array.getElem?_setIfInBounds_ne apart]

def IsColour (f : Frame) (k : Colour) (x y : Nat) : Prop :=
  ∀ c < f.channels, f.byte x y c = k.channel c

def SamePixel (f g : Frame) (x y : Nat) : Prop := ∀ c, g.byte x y c = f.byte x y c

theorem byte_changeChannels (f : Frame) (x y : Nat) (g : Nat → UInt8) (c n : Nat) (x' y' c' : Nat) :
    (f.changeChannels x y (fun i _ => g i) c n).byte x' y' c' =
      if (x' = x ∧ y' = y) ∧ (c ≤ c' ∧ c' < c + n) ∧ f.hasByte x y c' = true then g c'
      else f.byte x' y' c' := by
  induction n generalizing f c with
  | zero =>
      rw [if_neg]
      · rfl
      · rintro ⟨-, ⟨after, before⟩, -⟩
        omega
  | succ n ih =>
      rw [changeChannels, ih, byte_setByte, hasByte_setByte]
      by_cases here : x' = x ∧ y' = y
      · obtain ⟨rfl, rfl⟩ := here
        by_cases same : c' = c
        · subst same
          simp
        · have shift : (c + 1 ≤ c' ∧ c' < c + 1 + n) ↔ c ≤ c' ∧ c' < c + (n + 1) := by omega
          simp only [same, shift, and_false, false_and, if_false, and_self, true_and]
      · have elsewhere : ¬ (x' = x ∧ y' = y ∧ c' = c) := fun all => here ⟨all.1, all.2.1⟩
        simp [here, elsewhere]

theorem byte_paint (f : Frame) (k : Colour) (x y x' y' c : Nat) :
    (f.paint k x y).byte x' y' c =
      if (x' = x ∧ y' = y) ∧ f.hasByte x y c = true then k.channel c else f.byte x' y' c := by
  rw [paint, byte_changeChannels]
  have bound : f.hasByte x y c = true → 0 ≤ c ∧ c < 0 + f.channels := by
    intro has
    have channel := (hasByte_iff.mp has).2.2
    omega
  congr 1
  simp only [eq_iff_iff]
  constructor
  · exact fun ⟨here, _, has⟩ => ⟨here, has⟩
  · exact fun ⟨here, has⟩ => ⟨here, bound has, has⟩

theorem eq_of_pixels {f g : Frame} (same : SameSize f g) (pixels : ∀ x y, SamePixel f g x y) :
    g = f := by
  obtain ⟨width, height, channels, bytes⟩ := f
  obtain ⟨width', height', channels', bytes'⟩ := g
  obtain ⟨rfl, rfl, rfl⟩ : width' = width ∧ height' = height ∧ channels' = channels :=
    ⟨same.width, same.height, same.channels⟩
  congr 1
  refine Vector.ext fun i bound => ?_
  have place : i / channels' < height' * width' := Nat.div_lt_of_lt_mul (by rwa [Nat.mul_comm])
  have row : i / channels' / width' < height' := Nat.div_lt_of_lt_mul (by rwa [Nat.mul_comm])
  have column : i / channels' % width' < width' :=
    Nat.mod_lt _ (Nat.pos_of_mul_pos_left (Nat.zero_lt_of_lt place))
  have channel : i % channels' < channels' :=
    Nat.mod_lt _ (Nat.pos_of_mul_pos_left (Nat.zero_lt_of_lt bound))
  have number : (i / channels' / width' * width' + i / channels' % width') * channels' +
      i % channels' = i := by
    rw [Nat.div_add_mod', Nat.div_add_mod']
  have pixel := pixels (i / channels' % width') (i / channels' / width') (i % channels')
  simpa [byte, hasByte, offset, row, column, channel, number, bound] using pixel

end Frame

end HatReel.Image

namespace HatReel.Draw

open HatReel.Image HatReel.Image.Frame

theorem hasByte_sameSize {f g : Frame} (same : SameSize f g) : g.hasByte = f.hasByte := by
  funext x y c
  simp [hasByte, same.width, same.height, same.channels]

theorem sameSize_paintPoints (f : Frame) (k : Colour) (ps : List Point) :
    SameSize f (paintPoints f k ps) :=
  sameSize_foldl (fun f p => sameSize_paintPoint f k p) f ps

theorem byte_paintPoint (f : Frame) (k : Colour) (p : Point) (x y c : Nat) :
    (paintPoint f k p).byte x y c =
      if p = ⟨x, y⟩ ∧ f.hasByte x y c = true then k.channel c else f.byte x y c := by
  obtain ⟨px, py⟩ := p
  simp only [paintPoint, Point.mk.injEq]
  by_cases inside : 0 ≤ px ∧ 0 ≤ py
  · lift px to Nat using inside.1
    lift py to Nat using inside.2
    simp only [Int.natCast_nonneg, decide_true, Bool.and_self, if_true, Int.toNat_natCast,
      byte_paint, Int.natCast_inj]
    by_cases here : px = x ∧ py = y
    · obtain ⟨rfl, rfl⟩ := here
      rfl
    · have there : ¬ (x = px ∧ y = py) := fun same => here ⟨same.1.symm, same.2.symm⟩
      simp only [here, there, false_and]
  · have outside : ¬ ((0 ≤ px && 0 ≤ py) = true) := by simpa using inside
    rw [if_neg outside, if_neg]
    rintro ⟨⟨rfl, rfl⟩, -⟩
    exact inside ⟨Int.natCast_nonneg x, Int.natCast_nonneg y⟩

theorem byte_paintPoints (f : Frame) (k : Colour) (ps : List Point) (x y c : Nat) :
    (paintPoints f k ps).byte x y c =
      if ⟨x, y⟩ ∈ ps ∧ f.hasByte x y c = true then k.channel c else f.byte x y c := by
  induction ps generalizing f with
  | nil => simp [paintPoints]
  | cons p rest ih =>
      change (paintPoints (paintPoint f k p) k rest).byte x y c = _
      rw [ih, hasByte_sameSize (sameSize_paintPoint f k p), byte_paintPoint]
      simp only [List.mem_cons, eq_comm (a := p)]
      by_cases later : ⟨x, y⟩ ∈ rest
      · by_cases has : f.hasByte x y c = true <;> simp [later, has]
      · simp only [later, or_false, false_and, if_false]

theorem paintPoints_again (f : Frame) (k : Colour) (ps : List Point) :
    paintPoints (paintPoints f k ps) k ps = paintPoints f k ps := by
  refine eq_of_pixels (sameSize_paintPoints _ k ps) fun x y c => ?_
  rw [byte_paintPoints, hasByte_sameSize (sameSize_paintPoints f k ps)]
  split
  · next painted => rw [byte_paintPoints, if_pos painted]
  · rfl

theorem paintPoints_append (f : Frame) (k : Colour) (ps qs : List Point) :
    paintPoints f k (ps ++ qs) = paintPoints (paintPoints f k ps) k qs := List.foldl_append

/-- Points that depend on the size of the frame only may be gathered before they are painted. -/
theorem foldl_paintPoints {α : Type} (points : Nat → Nat → α → List Point) (f : Frame) (k : Colour)
    (as : List α) :
    as.foldl (fun f a => paintPoints f k (points f.width f.height a)) f =
      paintPoints f k (as.flatMap (points f.width f.height)) := by
  induction as generalizing f with
  | nil => rfl
  | cons a rest ih =>
      have same := sameSize_paintPoints f k (points f.width f.height a)
      rw [List.foldl_cons, ih, List.flatMap_cons, paintPoints_append, same.width, same.height]

def outline (width height : Nat) (ps : List Point) : List Point :=
  (sides ps).flatMap (Segment.pointsWithin width height)

theorem drawPolygon_eq (f : Frame) (k : Colour) (ps : List Point) :
    drawPolygon f k ps = paintPoints f k (outline f.width f.height ps) :=
  foldl_paintPoints Segment.pointsWithin f k (sides ps)

theorem drawPolygons_eq (f : Frame) (polygons : List (List Point)) :
    Contour.drawPolygons f polygons =
      paintPoints f blue (polygons.flatMap (outline f.width f.height)) := by
  rw [← foldl_paintPoints outline, Contour.drawPolygons]
  simp only [drawPolygon_eq]

end HatReel.Draw
