import HatReel.Image.Warp
import Mathlib.Analysis.SpecialFunctions.Trigonometric.Basic
import Mathlib.LinearAlgebra.UnitaryGroup

/-! Rotations in exact arithmetic.

A way to turn space gives a rotation for every axis, and the opposite rotation for the opposite
axis. The formula by which axes are turned has this property over the real numbers: with the
direction of the axis it mixes three maps, the identity, the projection onto the axis and the cross
product with it, whose products are known. -/

namespace HatReel.Perspective

open HatReel.Image hiding Matrix

section

variable {K : Type}

def space (m : Image.Matrix K) : Matrix (Fin 3) (Fin 3) K :=
  !![m.m00, m.m01, m.m02; m.m10, m.m11, m.m12; m.m20, m.m21, m.m22]

theorem space_injective :
    Function.Injective (space : Image.Matrix K → Matrix (Fin 3) (Fin 3) K) := by
  intro m n same
  have entry (i j : Fin 3) : space m i j = space n i j := by rw [same]
  cases m
  cases n
  simp only [Image.Matrix.mk.injEq]
  exact ⟨entry 0 0, entry 0 1, entry 0 2, entry 1 0, entry 1 1, entry 1 2,
    entry 2 0, entry 2 1, entry 2 2⟩

/-- The opposite axis. -/
instance [Neg K] : Neg (Axis K) := ⟨fun v => ⟨-v.x, -v.y, -v.z⟩⟩

@[simp]
theorem neg_x [Neg K] (v : Axis K) : (-v).x = -v.x := rfl

@[simp]
theorem neg_y [Neg K] (v : Axis K) : (-v).y = -v.y := rfl

@[simp]
theorem neg_z [Neg K] (v : Axis K) : (-v).z = -v.z := rfl

instance [InvolutiveNeg K] : InvolutiveNeg (Axis K) where
  neg_neg v := by
    calc -(-v) = ⟨-(-v.x), -(-v.y), -(-v.z)⟩ := rfl
      _ = v := by simp only [neg_neg]

structure Turns [CommRing K] (turn : Axis K → Image.Matrix K) : Prop where
  rotation : ∀ v, space (turn v) ∈ Matrix.specialOrthogonalGroup (Fin 3) K
  opposite : ∀ v, space (turn (-v)) = (space (turn v)).transpose

section

variable [Field K] [CharZero K]

@[simp]
theorem fraction_zero : (0.0 : K) = 0 := by norm_num

@[simp]
theorem fraction_one : (1.0 : K) = 1 := by norm_num

@[simp]
theorem fraction_two : (2.0 : K) = 2 := by norm_num

@[simp]
theorem fraction_thirtyTwo : (32.0 : K) = 32 := by norm_num

end

end

/-! The three maps of a direction. -/

section

variable {K : Type} [CommRing K] (n : Axis K)

def square : K := n.x * n.x + n.y * n.y + n.z * n.z

theorem square_neg : square (-n) = square n := by
  simp only [square, neg_x, neg_y, neg_z, neg_mul_neg]

def onto : Matrix (Fin 3) (Fin 3) K :=
  !![n.x * n.x, n.x * n.y, n.x * n.z;
    n.x * n.y, n.y * n.y, n.y * n.z;
    n.x * n.z, n.y * n.z, n.z * n.z]

def cross : Matrix (Fin 3) (Fin 3) K := !![0, -n.z, n.y; n.z, 0, -n.x; -n.y, n.x, 0]

theorem transpose_onto : (onto n).transpose = onto n := by
  ext i j
  fin_cases i <;> fin_cases j <;> rfl

theorem transpose_cross : (cross n).transpose = -cross n := by
  ext i j
  fin_cases i <;> fin_cases j <;> simp [cross]

theorem onto_neg : onto (-n) = onto n := by
  simp only [onto, neg_x, neg_y, neg_z, neg_mul_neg]

theorem cross_neg : cross (-n) = -cross n := by
  ext i j
  fin_cases i <;> fin_cases j <;> simp [cross]

theorem onto_cross : onto n * cross n = 0 := by
  ext i j
  fin_cases i <;> fin_cases j <;> simp [onto, cross, Matrix.mul_apply, Fin.sum_univ_three] <;> ring

theorem cross_onto : cross n * onto n = 0 := by
  ext i j
  fin_cases i <;> fin_cases j <;> simp [onto, cross, Matrix.mul_apply, Fin.sum_univ_three] <;> ring

variable {n} (unit : square n = 1)

include unit

theorem onto_onto : onto n * onto n = onto n := by
  unfold square at unit
  ext i j
  fin_cases i <;> fin_cases j <;> simp [onto, Matrix.mul_apply, Fin.sum_univ_three] <;> grind

theorem cross_cross : cross n * cross n = onto n - 1 := by
  unfold square at unit
  ext i j
  fin_cases i <;> fin_cases j <;> simp [onto, cross, Matrix.mul_apply, Fin.sum_univ_three] <;> grind

end

/-! Turning about a direction. -/

section

variable {K : Type} [CommRing K] {n : Axis K} {c s : K}

/-- The turn about a direction by the angle of cosine `c` and sine `s`. -/
def turned (n : Axis K) (c s : K) : Matrix (Fin 3) (Fin 3) K :=
  c • 1 + (1 - c) • onto n + s • cross n

theorem transpose_turned : (turned n c s).transpose = turned n c (-s) := by
  simp only [turned, Matrix.transpose_add, Matrix.transpose_smul, Matrix.transpose_one,
    transpose_onto, transpose_cross, smul_neg, neg_smul]

theorem turned_neg : turned (-n) c s = turned n c (-s) := by
  simp only [turned, onto_neg, cross_neg, smul_neg, neg_smul]

theorem turned_mul_back (unit : square n = 1) (circle : c * c + s * s = 1) :
    turned n c s * turned n c (-s) = 1 := by
  -- In all the projection has the coefficient `1 - c * c`, and the squared cross product takes
  -- `s * s` of it back.
  calc turned n c s * turned n c (-s)
      = (c * c) • 1 + (2 * c * (1 - c)) • onto n + ((1 - c) * (1 - c)) • (onto n * onto n) +
          (c * s - s * c) • cross n + ((1 - c) * s) • (cross n * onto n - onto n * cross n) -
          (s * s) • (cross n * cross n) := by
        simp only [turned, add_mul, mul_add, smul_mul_assoc, mul_smul_comm, one_mul, mul_one]
        module
    _ = (c * c + s * s) • (1 - onto n) + onto n := by
        rw [onto_onto unit, cross_cross unit, onto_cross, cross_onto]
        module
    _ = 1 := by rw [circle, one_smul, sub_add_cancel]

theorem det_turned (unit : square n = 1) (circle : c * c + s * s = 1) : (turned n c s).det = 1 := by
  -- One factor is what happens to the axis, the other what happens to the plane across it.
  calc (turned n c s).det
      = (c + (1 - c) * square n) * (c * c + s * s * square n) := by
        rw [Matrix.det_fin_three]
        simp [turned, onto, cross, square]
        ring
    _ = 1 := by rw [unit, mul_one, mul_one, circle, add_sub_cancel, one_mul]

theorem turned_rotation (unit : square n = 1) (circle : c * c + s * s = 1) :
    turned n c s ∈ Matrix.specialOrthogonalGroup (Fin 3) K := by
  rw [Matrix.mem_specialOrthogonalGroup_iff, Matrix.mem_orthogonalGroup_iff, transpose_turned]
  exact ⟨turned_mul_back unit circle, det_turned unit circle⟩

end

/-! The formula over the real numbers. -/

noncomputable instance : Elementary ℝ := ⟨Real.sqrt, Real.cos, Real.sin⟩

noncomputable def angle (v : Axis ℝ) : ℝ := √(square v)

noncomputable def direction (v : Axis ℝ) : Axis ℝ :=
  ⟨v.x * (1 / angle v), v.y * (1 / angle v), v.z * (1 / angle v)⟩

theorem angle_neg (v : Axis ℝ) : angle (-v) = angle v := by
  rw [angle, square_neg, angle]

theorem direction_neg (v : Axis ℝ) : direction (-v) = -direction v := by
  simp only [direction, angle_neg, neg_x, neg_y, neg_z, neg_mul]
  rfl

theorem direction_unit {v : Axis ℝ} (long : 0 < angle v) : square (direction v) = 1 := by
  have length : angle v * angle v = square v :=
    Real.mul_self_sqrt
      (add_nonneg (add_nonneg (mul_self_nonneg _) (mul_self_nonneg _)) (mul_self_nonneg _))
  have shrunk : square (direction v) = square v * (1 / angle v * (1 / angle v)) := by
    simp only [square, direction]
    ring
  rw [shrunk, ← length]
  field_simp

theorem rotation_short {v : Axis ℝ} (short : angle v < 2.220446049250313e-16) :
    space v.rotation = 1 := by
  have fixed : v.rotation = ⟨1.0, 0.0, 0.0, 0.0, 1.0, 0.0, 0.0, 0.0, 1.0⟩ := if_pos short
  rw [fixed]
  ext i j
  fin_cases i <;> fin_cases j <;> simp [space]

theorem rotation_long {v : Axis ℝ} (long : ¬ angle v < 2.220446049250313e-16) :
    space v.rotation = turned (direction v) (Real.cos (angle v)) (Real.sin (angle v)) := by
  unfold Axis.rotation
  extract_lets a c s d scale x y z
  rw [if_neg (show ¬ a < 2.220446049250313e-16 from long)]
  have cosine : c = Real.cos (angle v) := rfl
  have sine : s = Real.sin (angle v) := rfl
  have shrunk : scale = 1 / angle v := by rw [← fraction_one]; rfl
  have rest : d = 1 - Real.cos (angle v) := by rw [← fraction_one]; rfl
  ext i j
  fin_cases i <;> fin_cases j <;>
    simp [space, turned, onto, cross, direction, x, y, z, cosine, sine, shrunk, rest]

theorem turns_rotation : Turns (Axis.rotation : Axis ℝ → Image.Matrix ℝ) where
  rotation v := by
    by_cases short : angle v < 2.220446049250313e-16
    · rw [rotation_short short]
      exact one_mem _
    · have long : 0 < angle v := lt_of_lt_of_le (by norm_num) (not_lt.mp short)
      rw [rotation_long short]
      refine turned_rotation (direction_unit long) ?_
      rw [← sq, ← sq, Real.cos_sq_add_sin_sq]
  opposite v := by
    by_cases short : angle v < 2.220446049250313e-16
    · rw [rotation_short short, rotation_short ((angle_neg v).symm ▸ short), Matrix.transpose_one]
    · rw [rotation_long short, rotation_long ((angle_neg v).symm ▸ short), transpose_turned,
        angle_neg, direction_neg, turned_neg]

end HatReel.Perspective
