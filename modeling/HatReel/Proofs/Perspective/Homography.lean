import HatReel.Proofs.Perspective.Rotation

/-! Homographies in exact arithmetic.

Scaling a rotation with the focal length is a change of coordinates, so homographies of one frame
size are multiplied as their rotations are, and the homography of the opposite axis is the inverse.
The warp, which looks every pixel up where the inverse takes it, is therefore undone by the warp of
the opposite axis. -/

namespace HatReel.Perspective

open HatReel.Image hiding Matrix
open scoped Matrix

section

variable {K : Type} [Field K] {f : K}

/-- The coordinates in the picture plane at the distance `f`, from those at distance one. -/
def lens (f : K) : Matrix (Fin 3) (Fin 3) K := Matrix.diagonal ![f, f, 1]

theorem lens_mul (f g : K) : lens f * lens g = lens (f * g) := by
  rw [lens, lens, Matrix.diagonal_mul_diagonal, lens]
  congr 1
  ext i
  fin_cases i <;> simp

theorem lens_one : lens (1 : K) = 1 := by
  rw [lens, ← Matrix.diagonal_one]
  congr 1
  ext i
  fin_cases i <;> rfl

theorem lens_mul_inverse (focal : f ≠ 0) : lens f * lens (1 / f) = 1 := by
  rw [lens_mul, mul_one_div_cancel focal, lens_one]

theorem inverse_mul_lens (focal : f ≠ 0) : lens (1 / f) * lens f = 1 := by
  rw [lens_mul, one_div_mul_cancel focal, lens_one]

/-- The change of coordinates for maps of space. It keeps products and can be taken back. -/
def refocus (focal : f ≠ 0) : Matrix (Fin 3) (Fin 3) K ≃* Matrix (Fin 3) (Fin 3) K where
  toFun a := lens f * a * lens (1 / f)
  invFun a := lens (1 / f) * a * lens f
  left_inv a := by
    calc lens (1 / f) * (lens f * a * lens (1 / f)) * lens f
        = (lens (1 / f) * lens f) * a * (lens (1 / f) * lens f) := by simp only [mul_assoc]
      _ = a := by rw [inverse_mul_lens focal, one_mul, mul_one]
  right_inv a := by
    calc lens f * (lens (1 / f) * a * lens f) * lens (1 / f)
        = (lens f * lens (1 / f)) * a * (lens f * lens (1 / f)) := by simp only [mul_assoc]
      _ = a := by rw [lens_mul_inverse focal, one_mul, mul_one]
  map_mul' a b := by
    calc lens f * (a * b) * lens (1 / f)
        = lens f * a * (lens (1 / f) * lens f) * b * lens (1 / f) := by
          rw [inverse_mul_lens focal, mul_one, mul_assoc (lens f) a b]
      _ = lens f * a * lens (1 / f) * (lens f * b * lens (1 / f)) := by simp only [mul_assoc]

theorem refocus_apply (focal : f ≠ 0) (a : Matrix (Fin 3) (Fin 3) K) :
    refocus focal a = lens f * a * lens (1 / f) := rfl

theorem det_refocus (focal : f ≠ 0) (a : Matrix (Fin 3) (Fin 3) K) :
    (refocus focal a).det = a.det := by
  rw [refocus_apply, Matrix.det_mul, Matrix.det_mul, mul_right_comm, ← Matrix.det_mul,
    lens_mul_inverse focal, Matrix.det_one, one_mul]

/-- Scaled are the four entries at which a coordinate in the plane meets the depth. -/
theorem space_focused (focal : f ≠ 0) (m : Image.Matrix K) :
    space (m.focused f) = refocus focal (space m) := by
  ext i j
  rw [refocus_apply, lens, lens, Matrix.mul_diagonal, Matrix.diagonal_mul]
  fin_cases i <;> fin_cases j <;> simp [space, Matrix.focused] <;> field_simp

def point (column row : K) : Fin 3 → K := ![column, row, 1]

theorem space_point (m : Image.Matrix K) (column row : K) :
    space m *ᵥ point column row =
      ![m.m00 * column + m.m01 * row + m.m02, m.m10 * column + m.m11 * row + m.m12,
        m.m20 * column + m.m21 * row + m.m22] := by
  ext i
  fin_cases i <;> simp [space, point, Matrix.mulVec, dotProduct, Fin.sum_univ_three]

def seen (p : Fin 3 → K) : K × K := (p 0 * (32 / p 2), p 1 * (32 / p 2))

theorem seen_smul {k : K} (nonzero : k ≠ 0) (p : Fin 3 → K) : seen (k • p) = seen p := by
  by_cases flat : p 2 = 0
  · simp [seen, flat]
  · simp only [seen, Pi.smul_apply, smul_eq_mul, Prod.mk.injEq]
    constructor <;> field_simp

theorem seen_point (column row : K) : seen (point column row) = (32 * column, 32 * row) := by
  simp [seen, point, mul_comm]

theorem turn_mul_neg {turn : Axis K → Image.Matrix K} (turns : Turns turn) (v : Axis K) :
    space (turn v) * space (turn (-v)) = 1 := by
  rw [turns.opposite]
  exact (Matrix.mem_orthogonalGroup_iff _ _).mp
    (Matrix.mem_specialOrthogonalGroup_iff.mp (turns.rotation v)).1

end

section

variable {K : Type} [Field K] [CharZero K]

/-- The place at which a point is seen is on the ray of the point. -/
theorem point_seen {p : Fin 3 → K} (deep : p 2 ≠ 0) :
    point ((seen p).1 / 32) ((seen p).2 / 32) = (1 / p 2) • p := by
  ext i
  fin_cases i <;> simp [point, seen] <;> field_simp

variable {turn : Axis K → Image.Matrix K} {size : K}

theorem focal_ne_zero (sized : size ≠ 0) : focalLength size ≠ 0 := by
  simp [focalLength, sized]

theorem space_homography (sized : size ≠ 0) (v : Axis K) :
    space (v.homographyBy turn size) = refocus (focal_ne_zero sized) (space (turn v)) :=
  space_focused (focal_ne_zero sized) (turn v)

theorem prod_homography (sized : size ≠ 0) (vs : List (Axis K)) :
    (vs.map fun v => space (v.homographyBy turn size)).prod =
      refocus (focal_ne_zero sized) (vs.map fun v => space (turn v)).prod := by
  rw [map_list_prod, List.map_map]
  exact congrArg List.prod (List.map_congr_left fun v _ => space_homography sized v)

theorem det_homography (turns : Turns turn) (sized : size ≠ 0) (v : Axis K) :
    (space (v.homographyBy turn size)).det = 1 := by
  rw [space_homography sized, det_refocus]
  exact (Matrix.mem_specialOrthogonalGroup_iff.mp (turns.rotation v)).2

theorem homography_mul_neg (turns : Turns turn) (sized : size ≠ 0) (v : Axis K) :
    space (v.homographyBy turn size) * space ((-v).homographyBy turn size) = 1 := by
  rw [space_homography sized, space_homography sized, ← map_mul, turn_mul_neg turns, map_one]

end

/-! Inverse maps, and where the warp looks pixels up. -/

section

variable {K : Type} [Field K] [CharZero K] [DecidableEq K]

/-- The inverse by cofactors is that of linear algebra; both are zero where there is none. -/
theorem space_inverse (m : Image.Matrix K) : space m.inverse = (space m)⁻¹ := by
  have determinant : (space m).det = m.m00 * (m.m11 * m.m22 - m.m12 * m.m21) -
      m.m01 * (m.m10 * m.m22 - m.m12 * m.m20) + m.m02 * (m.m10 * m.m21 - m.m11 * m.m20) := by
    rw [Matrix.det_fin_three]
    simp [space]
    ring
  unfold Image.Matrix.inverse
  extract_lets d e
  have isDeterminant : (space m).det = d := determinant
  rw [Matrix.inv_def, isDeterminant, Matrix.adjugate_fin_three, Ring.inverse_eq_inv']
  by_cases singular : d = 0
  · rw [if_pos (by simp [singular]), singular, inv_zero, zero_smul]
    ext i j
    fin_cases i <;> fin_cases j <;> simp [space]
  · have quotient : e = d⁻¹ := by rw [← one_div, ← fraction_one]
    rw [if_neg (by simp [singular]), quotient]
    ext i j
    fin_cases i <;> fin_cases j <;> simp [space] <;> ring

theorem inverse_of_mul {m n : Image.Matrix K} (product : space m * space n = 1) :
    m.inverse = n := by
  apply space_injective
  rw [space_inverse, Matrix.inv_eq_right_inv product]

/-- A point is mapped in space and seen in the plane, whatever part of its column is mapped
first. -/
theorem target_eq (m : Image.Matrix K) (start step row : K) :
    m.target start step row = seen (space m *ᵥ point (start + step) row) := by
  have across : m.m00 * (start + step) + m.m01 * row + m.m02 =
      m.m00 * start + m.m01 * row + m.m02 + m.m00 * step := by ring
  have along : m.m10 * (start + step) + m.m11 * row + m.m12 =
      m.m10 * start + m.m11 * row + m.m12 + m.m10 * step := by ring
  have depth : m.m20 * (start + step) + m.m21 * row + m.m22 =
      m.m20 * start + m.m21 * row + m.m22 + m.m20 * step := by ring
  rw [space_point, across, along, depth]
  unfold Image.Matrix.target
  simp only [fraction_zero, fraction_thirtyTwo, beq_iff_eq]
  -- In a field a quotient by zero is zero, so `seen` has no case for what is taken out of the
  -- plane.
  split
  · next flat => simp [seen, flat]
  · rfl

/-- The second map finds a place for each place of the plane that it does not take out of the plane,
and the first map takes what is found back. -/
def Undoes (back m : Image.Matrix K) : Prop :=
  ∀ start step row : K, m.m20 * (start + step) + m.m21 * row + m.m22 ≠ 0 →
    ∀ start' step' : K, start' + step' = (m.target start step row).1 / 32 →
      back.target start' step' ((m.target start step row).2 / 32) = (32 * (start + step), 32 * row)

theorem undoes_of_mul {back m : Image.Matrix K} (product : space back * space m = 1) :
    Undoes back m := by
  intro start step row deep start' step' column
  have isDeep : (space m *ᵥ point (start + step) row) 2 ≠ 0 := by
    rw [space_point]
    exact deep
  calc back.target start' step' ((m.target start step row).2 / 32)
      = seen (space back *ᵥ point ((m.target start step row).1 / 32)
        ((m.target start step row).2 / 32)) := by
        rw [target_eq back, column]
    _ = seen ((1 / (space m *ᵥ point (start + step) row) 2) • point (start + step) row) := by
        rw [target_eq m, point_seen isDeep, Matrix.mulVec_smul, Matrix.mulVec_mulVec, product,
          Matrix.one_mulVec]
    _ = (32 * (start + step), 32 * row) := by
        rw [seen_smul (one_div_ne_zero isDeep), seen_point]

variable {turn : Axis K → Image.Matrix K} {size : K}

theorem inverse_homography (turns : Turns turn) (sized : size ≠ 0) (v : Axis K) :
    (v.homographyBy turn size).inverse = (-v).homographyBy turn size :=
  inverse_of_mul (homography_mul_neg turns sized v)

/-- The warp looks pixels up by the inverse of a homography. -/
theorem warp_undone (turns : Turns turn) (sized : size ≠ 0) (v : Axis K) :
    Undoes ((-v).homographyBy turn size).inverse (v.homographyBy turn size).inverse := by
  apply undoes_of_mul
  rw [inverse_homography turns sized, inverse_homography turns sized, neg_neg]
  exact homography_mul_neg turns sized v

/-- The homography of an axis is its rotation in the coordinates of the picture plane. So its
determinant is one, the homography of the opposite axis is its inverse, also the inverse by which
the warp looks pixels up, the warp of every axis that is drawn is undone, and homographies of one
frame size are multiplied as their rotations are. -/
theorem homography_conjugates (turns : Turns turn) (width height : ℤ) (sized : 0 < width + height) :
    let size : K := ((width + height : ℤ) : K)
    let f := focalLength size
    let R (v : Axis K) := space (turn v)
    let H (v : Axis K) := space (v.homographyBy turn size)
    (∀ v, H v = Matrix.diagonal ![f, f, 1] * R v * Matrix.diagonal ![1 / f, 1 / f, 1]) ∧
    (∀ v, (H v).det = 1) ∧
    (∀ v, H v * H (-v) = 1) ∧
    (∀ v : Axis K, (v.homographyBy turn size).inverse = (-v).homographyBy turn size) ∧
    (∀ (spread : K) (seed : ℕ), let v := (randomAxis spread (.ofSeed seed)).1
      Undoes ((-v).homographyBy turn size).inverse (v.homographyBy turn size).inverse) ∧
    (∀ vs : List (Axis K), (vs.map H).prod =
      Matrix.diagonal ![f, f, 1] * (vs.map R).prod * Matrix.diagonal ![1 / f, 1 / f, 1]) ∧
    ∀ vs ws : List (Axis K), (vs.map H).prod = (ws.map H).prod ↔
      (vs.map R).prod = (ws.map R).prod := by
  intro size f R H
  have nonzero : size ≠ 0 := Int.cast_ne_zero.mpr sized.ne'
  refine ⟨space_homography nonzero, det_homography turns nonzero, homography_mul_neg turns nonzero,
    inverse_homography turns nonzero, fun spread seed => warp_undone turns nonzero _,
    prod_homography nonzero, fun vs ws => ?_⟩
  rw [prod_homography nonzero vs, prod_homography nonzero ws, EmbeddingLike.apply_eq_iff_eq]

end

noncomputable def tilted : Axis ℝ := ⟨1 / 20, -2 / 25, 1 / 10⟩

theorem homography_conjugates_tilted :
    (Turns (Axis.rotation : Axis ℝ → Image.Matrix ℝ) ∧ (0 : ℤ) < 640 + 480) ∧
    space (tilted.homography 1120) =
      Matrix.diagonal ![560, 560, 1] * space tilted.rotation *
        Matrix.diagonal ![1 / 560, 1 / 560, 1] ∧
    (space (tilted.homography 1120)).det = 1 ∧
    space (tilted.homography 1120) * space ((-tilted).homography 1120) = 1 ∧
    (tilted.homography 1120).inverse = (-tilted).homography 1120 := by
  have size : ((640 + 480 : ℤ) : ℝ) = 1120 := by norm_num
  have focal : focalLength (1120 : ℝ) = 560 := by norm_num [focalLength]
  obtain ⟨conjugate, determinant, opposite, inverse, -⟩ :=
    homography_conjugates turns_rotation 640 480 (by decide)
  rw [size] at conjugate determinant opposite inverse
  rw [focal] at conjugate
  exact ⟨⟨turns_rotation, by decide⟩, conjugate tilted, determinant tilted, opposite tilted,
    inverse tilted⟩

end HatReel.Perspective
