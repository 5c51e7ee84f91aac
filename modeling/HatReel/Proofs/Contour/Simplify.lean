import HatReel.Contour.Drawing
import HatReel.Proofs.Binary.Square

/-! A polygon can be simplified exactly if the tolerance is one.

The one other way to fail is an arc without a chord. The polygon is split at two corners that
differ, and an arc is cut at a corner that lies off its chord, which is neither of the chord's ends:
every arc that comes up has a chord. -/

namespace HatReel.Contour

open HatReel.Binary HatReel.Draw

theorem atMost_square {x : Float} (number : x.toModel.unpack ≠ .notANumber) :
    atMost 0 (x * x) = true := by
  unfold atMost
  rcases parts_square number with ⟨m, e, finite⟩ | infinite
  · rw [finite]
    simp
  · rw [infinite]
    rfl

theorem norm_eq_zero {p q : Point} (zero : norm (sub p q) = 0) : p = q := by
  unfold norm dot sub at zero
  simp only at zero
  have wide := mul_self_nonneg (p.x - q.x)
  have high := mul_self_nonneg (p.y - q.y)
  have sameX : p.x - q.x = 0 := mul_self_eq_zero.mp (by omega)
  have sameY : p.y - q.y = 0 := mul_self_eq_zero.mp (by omega)
  cases p
  cases q
  simp only [Point.mk.injEq]
  simp only at sameX sameY
  omega

theorem norm_self (p : Point) : norm (sub p p) = 0 := by
  simp [norm, dot, sub]

theorem furthest_cases (value : Nat → Nat) (n j : Nat) (best : Nat × Nat) :
    furthest value n j best = best ∨
      ∃ k, j ≤ k ∧ k < j + n ∧ furthest value n j best = (value k, k) ∧ best.1 < value k := by
  induction n generalizing j best with
  | zero => exact Or.inl rfl
  | succ n ih =>
      unfold furthest
      simp only
      split
      · next more =>
        right
        rcases ih (j + 1) (value j, j) with same | ⟨k, after, before, found, further⟩
        · exact ⟨j, le_refl j, by omega, same, more⟩
        · exact ⟨k, by omega, by omega, found, lt_trans more further⟩
      · rcases ih (j + 1) best with same | ⟨k, after, before, found, further⟩
        · exact Or.inl same
        · exact Or.inr ⟨k, by omega, by omega, found, further⟩

theorem chordDistance_start (a b : Point) : chordDistance a b a = 0 := by
  unfold chordDistance
  have here : dot (sub a a) (sub b a) = 0 := by simp [dot, sub]
  have flat : cross (sub a a) (sub b a) = 0 := by simp [cross, sub]
  simp only [here, flat]
  simp

theorem chordDistance_end (a b : Point) : chordDistance a b b = 0 := by
  unfold chordDistance
  have flat : cross (sub b a) (sub b a) = 0 := by
    simp only [cross]
    ring
  have along : dot (sub b a) (sub b a) = (norm (sub b a) : Int) := by
    unfold norm
    have wide := mul_self_nonneg (sub b a).x
    have high := mul_self_nonneg (sub b a).y
    have positive : 0 ≤ dot (sub b a) (sub b a) := by
      unfold dot
      omega
    omega
  simp only [along, flat]
  simp

theorem ends_of_off {a b p : Point} (off : 0 < chordDistance a b p) : p ≠ a ∧ p ≠ b := by
  constructor
  · rintro rfl
    rw [chordDistance_start] at off
    exact lt_irrefl 0 off
  · rintro rfl
    rw [chordDistance_end] at off
    exact lt_irrefl 0 off

/-- An arc with a chord can be simplified, and so can one of no more than one step. -/
theorem keepArc_chord (ps : Array Point) (tolerance : Float) (i n : Nat)
    (chord : 1 < n → corner ps i ≠ corner ps (i + n)) :
    ∃ kept, keepArc ps tolerance i n = some kept := by
  induction n using Nat.strong_induction_on generalizing i with
  | h n ih =>
      unfold keepArc
      simp only
      split
      · exact ⟨_, rfl⟩
      · next more =>
        split
        · next none => exact absurd (norm_eq_zero none).symm (chord (by omega))
        · split
          · exact ⟨_, rfl⟩
          · -- the arc is cut only where the furthest corner is off the chord
            obtain same | ⟨k, after, before, found, off⟩ := furthest_cases
              (fun j => chordDistance (corner ps i) (corner ps (i + n)) (corner ps (i + j)))
              (n - 1) 1 (0, 0)
            · rw [same]
              exact ⟨_, rfl⟩
            · obtain ⟨notStart, notEnd⟩ := ends_of_off off
              have whole : i + k + (n - k) = i + n := by omega
              obtain ⟨head, headKept⟩ := ih k (by omega) i fun _ => Ne.symm notStart
              obtain ⟨tail, tailKept⟩ := ih (n - k) (by omega) (i + k) fun _ => by
                rw [whole]
                exact notEnd
              rw [found]
              simp only [headKept, tailKept]
              split <;> exact ⟨_, rfl⟩

theorem number_of_tolerance {epsilon : Float} (tolerance : isTolerance epsilon = true) :
    epsilon.toModel.unpack ≠ .notANumber :=
  number_of_less (of_decide_eq_true (Bool.and_eq_true_iff.mp tolerance).2)

theorem furthestFrom_apart {ps : Array Point} {start steps : Nat}
    (apart : (furthestFrom ps start steps).1 ≠ 0) :
    (furthestFrom ps start steps).2 < ps.size ∧
      corner ps (start + (furthestFrom ps start steps).2) ≠ corner ps start := by
  obtain same | ⟨k, after, before, found, off⟩ := furthest_cases
    (fun j => norm (sub (corner ps (start + j)) (corner ps start))) (ps.size - 1) 1 (0, steps)
  · rw [furthestFrom, same] at apart
    exact absurd rfl apart
  · rw [furthestFrom, found]
    refine ⟨by simp only; omega, fun together => ?_⟩
    rw [together, norm_self] at off
    exact lt_irrefl 0 off

/-- What the search for two corners far apart gives, if they are apart at all. -/
theorem diameter_apart {ps : Array Point} {start steps distance : Nat}
    (found : diameter ps = (start, steps, distance)) (apart : distance ≠ 0) :
    steps < ps.size ∧ corner ps (start + steps) ≠ corner ps start := by
  unfold diameter at found
  simp only [Prod.mk.injEq] at found
  obtain ⟨isStart, rfl, rfl⟩ := found
  rw [← isStart]
  exact furthestFrom_apart apart

theorem simplify?_isSome (ps : List Point) (epsilon : Float) :
    (simplify? ps epsilon).isSome = isTolerance epsilon := by
  unfold simplify?
  cases tolerance : isTolerance epsilon with
  | false => rfl
  | true =>
      simp only [Bool.not_true, Bool.false_eq_true, if_false]
      split
      · rfl
      · rcases found : diameter ps.toArray with ⟨start, steps, distance⟩
        simp only
        split
        · rfl
        · next far =>
          have apart : distance ≠ 0 := by
            rintro rfl
            exact far (atMost_square (number_of_tolerance tolerance))
          obtain ⟨inside, differ⟩ := diameter_apart found apart
          have around : corner ps.toArray (start + steps + (ps.toArray.size - steps)) =
              corner ps.toArray start := by
            have whole : start + steps + (ps.toArray.size - steps) = start + ps.toArray.size := by
              omega
            rw [whole, corner, Nat.add_mod_right, corner]
          obtain ⟨head, headKept⟩ := keepArc_chord ps.toArray (epsilon * epsilon) start steps
            fun _ => Ne.symm differ
          obtain ⟨tail, tailKept⟩ := keepArc_chord ps.toArray (epsilon * epsilon) (start + steps)
            (ps.toArray.size - steps) fun _ => by
              rw [around]
              exact differ
          simp only [headKept, tailKept]
          rfl

/-- A contour has a polygon exactly if its share of the perimeter is a tolerance. -/
theorem approximate?_isSome (ps : List Point) (ratio : Float) :
    (approximate? ps ratio).isSome = isTolerance (perimeter ps * ratio) := simplify?_isSome _ _

end HatReel.Contour
