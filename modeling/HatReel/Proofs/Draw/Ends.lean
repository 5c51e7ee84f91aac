import HatReel.Draw.Line
import Mathlib.Algebra.Order.Ring.Int
import Mathlib.Logic.Function.Iterate
import Mathlib.Tactic.Linarith
import Mathlib.Tactic.Ring

/-! A line reaches both of its ends.

The error of a line under way stays in a window as wide as twice its longer side. After as many
steps as the longer side is long, that leaves one number of turns only, which is the length of the
shorter side. So every corner of a polygon inside a frame is one of the points that are drawn. -/

namespace HatReel.Draw

variable {k : Course} {m : March}

def Course.IsProper (k : Course) : Prop := 0 ≤ k.short ∧ k.short ≤ k.long

def Course.place (k : Course) (a : Point) (steps turns : Int) : Point :=
  if k.isVertical then ⟨a.x + turns, a.y + steps * k.down⟩ else ⟨a.x + steps, a.y + turns * k.down⟩

/-- What a line that started from `a` knows after some steps: the error is in its window. -/
structure UnderWay (k : Course) (a : Point) (steps : Int) (turns : Int) (m : March) : Prop where
  point : m.point = k.place a steps turns
  error : m.error = k.long - 2 * k.short - 2 * k.short * steps + 2 * k.long * turns
  above : -(2 * k.short) ≤ m.error
  below : 0 < k.long → m.error < 2 * k.long - 2 * k.short

theorem underWay_start (proper : k.IsProper) (a : Point) :
    UnderWay k a 0 0 ⟨k.long - 2 * k.short, a⟩ where
  point := by simp [Course.place]
  error := by ring
  above := by
    obtain ⟨positive, longer⟩ := proper
    change -(2 * k.short) ≤ k.long - 2 * k.short
    omega
  below long := by
    change k.long - 2 * k.short < 2 * k.long - 2 * k.short
    omega

theorem underWay_step (proper : k.IsProper) {a : Point} {steps turns : Int}
    (way : UnderWay k a steps turns m) :
    UnderWay k a (steps + 1) (if m.error < 0 then turns + 1 else turns) (k.step m) := by
  obtain ⟨point, error, above, below⟩ := way
  obtain ⟨positive, longer⟩ := proper
  have stepError : (k.step m).error =
      m.error - 2 * k.short + (if m.error < 0 then 2 * k.long else 0) := by
    unfold Course.step
    cases k.isVertical <;> simp
  refine ⟨?_, ?_, ?_, ?_⟩
  · unfold Course.step
    rw [point, Course.place, Course.place]
    cases k.isVertical <;> by_cases turned : m.error < 0 <;>
      simp [turned, Int.add_mul, Int.add_assoc]
  · rw [stepError, error]
    split <;> ring
  · rw [stepError]
    split <;> omega
  · intro long
    have under := below long
    rw [stepError]
    split <;> omega

theorem underWay_after (proper : k.IsProper) (a : Point) (n : Nat) :
    ∃ turns, UnderWay k a n turns (k.step^[n] ⟨k.long - 2 * k.short, a⟩) := by
  induction n with
  | zero => exact ⟨0, underWay_start proper a⟩
  | succ n ih =>
      obtain ⟨turns, way⟩ := ih
      rw [Function.iterate_succ_apply', Nat.cast_succ]
      exact ⟨_, underWay_step proper way⟩

/-- At the end of the longer side only one number of turns keeps the error in its window. -/
theorem turns_last {a : Point} {turns : Int} (long : 0 < k.long)
    (way : UnderWay k a k.long turns m) : turns = k.short := by
  obtain ⟨-, error, above, below⟩ := way
  have under := below long
  have from0 : 0 ≤ k.long * (2 * (turns - k.short) + 1) := by linarith
  have to2 : k.long * (2 * (turns - k.short) + 1) < k.long * 2 := by linarith
  have low : 0 ≤ 2 * (turns - k.short) + 1 := nonneg_of_mul_nonneg_right from0 long
  have high : 2 * (turns - k.short) + 1 < 2 := lt_of_mul_lt_mul_left to2 long.le
  omega

theorem underWay_last (proper : k.IsProper) (a : Point) :
    UnderWay k a k.long k.short (k.step^[k.long.toNat] ⟨k.long - 2 * k.short, a⟩) := by
  obtain ⟨positive, longer⟩ := proper
  obtain ⟨turns, way⟩ := underWay_after ⟨positive, longer⟩ a k.long.toNat
  rw [Int.toNat_of_nonneg (positive.trans longer)] at way
  rcases (positive.trans longer).eq_or_lt with none | long
  · have start := underWay_start ⟨positive, longer⟩ a
    have short : k.short = 0 := by omega
    rw [← none, short]
    simpa [← none, short] using start
  · have short := turns_last long way
    rwa [short] at way

theorem mem_points (k : Course) {n count : Nat} (m : March) (before : n < count) :
    (k.step^[n] m).point ∈ k.points count m := by
  induction count generalizing n m with
  | zero => omega
  | succ count ih =>
      cases n with
      | zero => exact List.mem_cons_self
      | succ n => exact List.mem_cons_of_mem _ (ih (k.step m) (by omega))

theorem course_leads {s : Segment} (leftToRight : s.a.x ≤ s.b.x) :
    s.course.IsProper ∧ s.course.place s.a s.course.long s.course.short = s.b := by
  obtain ⟨⟨ax, ay⟩, ⟨bx, v⟩⟩ := s
  simp only at leftToRight
  have height : ((v - ay).natAbs : Int) * (if v - ay < 0 then -1 else 1) = v - ay := by
    split <;> omega
  unfold Segment.course Course.IsProper Course.place
  simp only
  split
  · next steep =>
    simp only [if_true, height, Point.mk.injEq]
    omega
  · next flat =>
    simp only [Bool.false_eq_true, if_false, height, Point.mk.injEq]
    omega

theorem ends_leftToRight (s : Segment) :
    s.leftToRight.a.x ≤ s.leftToRight.b.x ∧
      (s.leftToRight = s ∨ s.leftToRight.a = s.b ∧ s.leftToRight.b = s.a) := by
  unfold Segment.leftToRight
  split
  · next before => exact ⟨le_of_lt before, .inr ⟨rfl, rfl⟩⟩
  · next after => exact ⟨not_lt.mp after, .inl rfl⟩

theorem ends_mem (s : Segment) : s.a ∈ s.points ∧ s.b ∈ s.points := by
  obtain ⟨leftToRight, same⟩ := ends_leftToRight s
  have both : s.leftToRight.a ∈ s.points ∧ s.leftToRight.b ∈ s.points := by
    obtain ⟨proper, leads⟩ := course_leads leftToRight
    have long : 0 ≤ s.leftToRight.course.long := proper.1.trans proper.2
    have last := (underWay_last proper s.leftToRight.a).point
    rw [leads] at last
    constructor
    · exact mem_points _ (n := 0) _ (by omega)
    · rw [← last]
      exact mem_points _ _ (by omega)
  rcases same with same | ⟨first, second⟩
  · rwa [same] at both
  · rw [first, second] at both
    exact both.symm

def Point.IsInside (width height : Nat) (p : Point) : Prop :=
  (0 ≤ p.x ∧ p.x < width) ∧ 0 ≤ p.y ∧ p.y < height

theorem side_inside {high v : Int} (from0 : 0 ≤ v) (below : v ≤ high) : side high v = .inside := by
  unfold side
  rw [if_neg (not_lt.mpr from0), if_neg (not_lt.mpr below)]

theorem clip_inside {width height : Nat} {s : Segment} (first : s.a.IsInside width height)
    (second : s.b.IsInside width height) : clip? width height s = some s := by
  obtain ⟨⟨aLeft, aRight⟩, aTop, aBottom⟩ := first
  obtain ⟨⟨bLeft, bRight⟩, bTop, bBottom⟩ := second
  have wide : width ≠ 0 ∧ height ≠ 0 := by omega
  have aX : side ((width : Int) - 1) s.a.x = .inside := side_inside aLeft (by omega)
  have bX : side ((width : Int) - 1) s.b.x = .inside := side_inside bLeft (by omega)
  have aY : side ((height : Int) - 1) s.a.y = .inside := side_inside aTop (by omega)
  have bY : side ((height : Int) - 1) s.b.y = .inside := side_inside bTop (by omega)
  have near : isBeyond ((width : Int) - 1) (height - 1) s = false := by
    unfold isBeyond
    rw [aX, bX, aY, bY]
    rfl
  unfold clip?
  simp [wide, near, cutVertical, cutHorizontal, aX, bX, aY, bY, sameSide]

theorem rotateLeft_cons (p : Point) (rest : List Point) :
    (p :: rest).rotateLeft 1 = rest ++ [p] := by
  cases rest with
  | nil => rfl
  | cons q rest =>
      have one : 1 % (rest.length + 1 + 1) = 1 := Nat.mod_eq_of_lt (by omega)
      simp [List.rotateLeft, one]

/-- Every side of a polygon leads from a corner to a corner, and from every corner there is one. -/
theorem sides_corners (ps : List Point) :
    (∀ s ∈ sides ps, s.a ∈ ps ∧ s.b ∈ ps) ∧ ∀ p ∈ ps, ∃ s ∈ sides ps, s.a = p := by
  cases ps with
  | nil => simp [sides]
  | cons p rest =>
      have length : (p :: rest).length = (rest ++ [p]).length := by simp
      have isMap : sides (p :: rest) =
          ((p :: rest).zip (rest ++ [p])).map fun ends => ⟨ends.1, ends.2⟩ := by
        rw [sides, rotateLeft_cons, List.zip, List.map_zipWith]
      constructor
      · intro s member
        rw [isMap, List.mem_map] at member
        obtain ⟨⟨a, b⟩, together, rfl⟩ := member
        obtain ⟨first, second⟩ := List.of_mem_zip together
        refine ⟨first, ?_⟩
        rcases List.mem_append.mp second with later | same
        · exact List.mem_cons_of_mem _ later
        · exact List.mem_singleton.mp same ▸ List.mem_cons_self
      · intro q member
        have firsts : ((p :: rest).zip (rest ++ [p])).map Prod.fst = p :: rest :=
          List.map_fst_zip (le_of_eq length)
        rw [← firsts, List.mem_map] at member
        obtain ⟨ends, together, isFirst⟩ := member
        exact ⟨_, isMap ▸ List.mem_map_of_mem together, isFirst⟩

theorem corners_drawn {width height : Nat} {ps : List Point}
    (inside : ∀ p ∈ ps, p.IsInside width height) {p : Point} (member : p ∈ ps) :
    p ∈ (sides ps).flatMap (Segment.pointsWithin width height) := by
  obtain ⟨corners, each⟩ := sides_corners ps
  obtain ⟨s, isSide, rfl⟩ := each p member
  obtain ⟨first, second⟩ := corners s isSide
  refine List.mem_flatMap.mpr ⟨s, isSide, ?_⟩
  rw [Segment.pointsWithin, clip_inside (inside _ first) (inside _ second)]
  exact (ends_mem s).1

end HatReel.Draw
