import HatReel.Draw.Smooth
import HatReel.Proofs.Draw.Clipping

/-! A smoothed line stays near its segment.

Along the longer axis a line takes one step beyond the end of its segment. Across it, three pixels
are touched around a position that starts at most one pixel off the segment's start and, the slope
being cut toward zero, never gets steeper than the segment. The step beyond the end is faint: of its
pixels, those more than one row off are touched without any strength. So all that changes is at most
two pixels away from every rectangle that holds the segment's ends, rows and columns counted
together. -/

namespace HatReel.Draw

/-- At most two steps along rows and columns lead from a point of the area to the point, so it is at
most two pixels away in a straight line too. -/
def Near (area : Point → Prop) (p : Point) : Prop :=
  ∃ q, area q ∧ (p.x - q.x).natAbs + (p.y - q.y).natAbs ≤ 2

theorem Near.mono {area wider : Point → Prop} {p : Point} (near : Near area p)
    (within : ∀ q, area q → wider q) :
    Near wider p := by
  obtain ⟨q, inside, close⟩ := near
  exact ⟨q, within q inside, close⟩

theorem Near.swap {e : Extent} {p : Point} (near : Near e.swap.Holds p) : Near e.Holds p.swap := by
  obtain ⟨q, inside, close⟩ := near
  refine ⟨q.swap, inside.swap, ?_⟩
  rw [Nat.add_comm]
  exact close

def Extent.scaled (e : Extent) : Extent :=
  ⟨e.left * one, e.top * one, e.right * one, e.bottom * one⟩

theorem Extent.Holds.scaled {e : Extent} {p : Point} (holds : e.Holds p) :
    e.scaled.Holds p.scaled := by
  obtain ⟨left, right, top, bottom⟩ := holds
  constructor <;> simp only [Extent.scaled, Point.scaled, one] <;> omega

def Touch.place (t : Touch) : Point := ⟨t.x, t.y⟩

def placed (steep : Bool) (long short : Int) : Point :=
  if steep then ⟨short, long⟩ else ⟨long, short⟩

/-- A touch at step `x` of a line whose position is `y`: one of the three pixels across the line. -/
structure Touch.Across (steep : Bool) (gainHere x y : Int) (row : Int) (t : Touch) : Prop where
  place : t.place = placed steep x row
  inside : 0 ≤ x ∧ 0 ≤ row
  near : y / one - 1 ≤ row ∧ row ≤ y / one + 1
  before : row = y / one - 1 →
    t.strength = gainHere * fallOff.getD ((y / 2048 % 32).toNat + 32) 0 / 256 % 256
  behind : row = y / one + 1 →
    t.strength = gainHere * fallOff.getD (63 - (y / 2048 % 32).toNat) 0 / 256 % 256

theorem touchesAt_across {steep : Bool} {width height gainHere x y : Int} {t : Touch}
    (member : t ∈ touchesAt steep width height gainHere x y) :
    ∃ row, t.Across steep gainHere x y row := by
  unfold touchesAt at member
  split at member
  · next column =>
    simp only [Bool.and_eq_true, decide_eq_true_eq] at column
    have marked {o strength : Int}
        (mark : t ∈ if 0 ≤ y / one - 1 + o && y / one - 1 + o < height then
            [if steep then (⟨y / one - 1 + o, x, strength⟩ : Touch)
              else ⟨x, y / one - 1 + o, strength⟩]
          else []) :
        t.place = placed steep x (y / one - 1 + o) ∧ 0 ≤ y / one - 1 + o ∧
          t.strength = strength := by
      split at mark
      · next inside =>
        simp only [Bool.and_eq_true, decide_eq_true_eq] at inside
        cases List.mem_singleton.mp mark
        cases steep <;> exact ⟨rfl, inside.1, rfl⟩
      · cases mark
    simp only [List.mem_append] at member
    rcases member with (first | second) | third
    · obtain ⟨place, row, strength⟩ := marked first
      exact ⟨_, place, ⟨column.1, row⟩, by omega, fun _ => strength, fun _ => by omega⟩
    · obtain ⟨place, row, -⟩ := marked second
      exact ⟨_, place, ⟨column.1, row⟩, by omega, fun _ => by omega, fun _ => by omega⟩
    · obtain ⟨place, row, strength⟩ := marked third
      exact ⟨_, place, ⟨column.1, row⟩, by omega, fun _ => by omega, fun _ => strength⟩
  · cases member

theorem Ramp.touches_across {r : Ramp} {s : Nat} {x y : Int} {n : Nat} {t : Touch}
    (member : t ∈ r.touches s x y (n + 1)) :
    ∃ k ≤ n, ∃ row, t.Across r.steep (r.gains.getD (min (s + k) 2 * 3 + min (n - k) 2) 0) (x + k)
      (y + k * r.slope) row := by
  induction n generalizing s x y with
  | zero =>
      rw [Ramp.touches, Ramp.touches, List.append_nil] at member
      obtain ⟨row, across⟩ := touchesAt_across member
      refine ⟨0, le_rfl, row, ?_⟩
      simpa using across
  | succ n ih =>
      rcases List.mem_append.mp member with here | later
      · obtain ⟨row, across⟩ := touchesAt_across here
        refine ⟨0, by omega, row, ?_⟩
        simpa using across
      · obtain ⟨k, before, row, across⟩ := ih later
        refine ⟨k + 1, by omega, row, ?_⟩
        have column : x + (k + 1 : Nat) = x + 1 + k := by omega
        have position : y + (k + 1 : Nat) * r.slope = y + r.slope + k * r.slope := by
          push_cast
          ring
        rw [column, position, show s + (k + 1) = s + 1 + k by omega, Nat.add_sub_add_right]
        exact across

theorem fallOff_small {i : Nat} (far : 47 ≤ i) : 0 ≤ fallOff.getD i 0 ∧ fallOff.getD i 0 ≤ 45 := by
  have all : ∀ i < 64, 47 ≤ i → 0 ≤ fallOff.getD i 0 ∧ fallOff.getD i 0 ≤ 45 := by decide
  rcases Nat.lt_or_ge i 64 with inside | outside
  · exact all i inside far
  · rw [Array.getD_eq_getD_getElem?, Array.getElem?_eq_none outside]
    decide

theorem gain_bounds (step : Int) : 0 ≤ gain step ∧ gain step ≤ 256 := by
  have all : ∀ i < 32, 0 ≤ slopeGain.getD i 0 ∧ slopeGain.getD i 0 ≤ 256 := by decide
  unfold gain
  simp only
  generalize (if step < 0 then 63 - step / 2048 % 64 else step / 2048 % 64) = slope
  split
  · decide
  · exact all _ (by omega)

/-- Where the line has used up its last pixel, one more is faint. -/
theorem endGains_faint (i : Int) (step : Int) :
    0 ≤ (endGains (gain step) i 0).getD 6 0 ∧ (endGains (gain step) i 0).getD 6 0 ≤ 4 := by
  have bounds := gain_bounds step
  change 0 ≤ (0 + 4) * gain step / 256 % 512 ∧ (0 + 4) * gain step / 256 % 512 ≤ 4
  omega

/-- Faint touches across the line have no strength where the position is in the other half of its
pixel. -/
theorem Touch.Across.faint {steep : Bool} {gainHere x y row : Int} {t : Touch}
    (across : t.Across steep gainHere x y row) (faint : 0 ≤ gainHere ∧ gainHere ≤ 4) :
    (row = y / one - 1 → 32767 ≤ y % one → t.strength = 0) ∧
      (row = y / one + 1 → y % one ≤ 32768 → t.strength = 0) := by
  have vanishes {i : Nat} (far : 47 ≤ i) : gainHere * fallOff.getD i 0 / 256 % 256 = 0 := by
    have small := fallOff_small far
    have product := Int.mul_nonneg faint.1 small.1
    have most := Int.mul_le_mul faint.2 small.2 small.1 (by decide)
    omega
  unfold one at *
  constructor
  · intro before half
    rw [across.before before]
    exact vanishes (by omega)
  · intro behind half
    rw [across.behind behind]
    exact vanishes (by omega)

/-- The change of the short coordinate per step: the quotient of the extents, the longer made
odd. -/
def slopeOf (dx dy : Int) : Int := Int.tdiv (dy * one) (if dx % 2 = 0 then dx + 1 else dx)

theorem slopeOf_neg (dx dy : Int) : slopeOf dx (-dy) = -slopeOf dx dy := by
  unfold slopeOf
  rw [Int.neg_mul, Int.neg_tdiv]

theorem slopeOf_rising {dx dy : Int} (rising : 0 ≤ dy) (gentle : dy ≤ dx) :
    0 ≤ slopeOf dx dy ∧ slopeOf dx dy ≤ one ∧ slopeOf dx dy * dx ≤ dy * one := by
  unfold slopeOf
  generalize isOdd : (if dx % 2 = 0 then dx + 1 else dx) = odd
  have longer : dx ≤ odd ∧ 0 < odd := by
    split at isOdd <;> omega
  have positive : 0 ≤ dy * one := Int.mul_nonneg rising (by decide)
  rw [Int.tdiv_eq_ediv_of_nonneg positive]
  have rises : 0 ≤ dy * one / odd := Int.ediv_nonneg positive longer.2.le
  refine ⟨rises, ?_, ?_⟩
  · refine Int.ediv_le_of_le_mul longer.2 ?_
    rw [Int.mul_comm]
    exact Int.mul_le_mul_of_nonneg_left (gentle.trans longer.1) (by decide)
  · calc dy * one / odd * dx ≤ dy * one / odd * odd := Int.mul_le_mul_of_nonneg_left longer.1 rises
      _ ≤ dy * one := Int.ediv_mul_le _ longer.2.ne'

theorem slopeOf_falling {dx dy : Int} (falling : dy ≤ 0) (gentle : -dy ≤ dx) :
    slopeOf dx dy ≤ 0 ∧ -one ≤ slopeOf dx dy ∧ dy * one ≤ slopeOf dx dy * dx := by
  obtain ⟨rises, below, reach⟩ := slopeOf_rising (by omega : 0 ≤ -dy) gentle
  rw [slopeOf_neg] at rises below reach
  exact ⟨by omega, by omega, by linarith⟩

/-- Where a line is after `k` steps, less the half pixel its positions are moved by. -/
def heightAt (a : Point) (slope k : Int) : Int := a.y + slope * -(a.x % one) / one + k * slope

section

variable {a b : Point} {slope k : Int}

theorem steps_most (last : k ≤ b.x / one - a.x / one + 1) :
    (0 ≤ a.x % one ∧ a.x % one ≤ one) ∧ k * one - a.x % one ≤ b.x - a.x + one := by
  simp only [one] at *
  omega

theorem heightAt_rising (rising : 0 ≤ slope) (gentle : slope ≤ one)
    (reach : slope * (b.x - a.x) ≤ (b.y - a.y) * one) (start : 0 ≤ k)
    (last : k ≤ b.x / one - a.x / one + 1) :
    a.y - one ≤ heightAt a slope k ∧ heightAt a slope k ≤ b.y + one := by
  unfold heightAt
  have unit : (0 : Int) < one := by decide
  obtain ⟨fraction, steps⟩ := steps_most last
  have offset := Int.ediv_mul_le (slope * -(a.x % one)) unit.ne'
  have back : -one ≤ slope * -(a.x % one) / one := by
    rw [Int.le_ediv_iff_mul_le unit]
    have product : slope * (a.x % one) ≤ one * one :=
      Int.mul_le_mul gentle fraction.2 fraction.1 unit.le
    linarith
  have climbed : slope * (k * one - a.x % one) ≤ slope * (b.x - a.x + one) :=
    Int.mul_le_mul_of_nonneg_left steps rising
  have more : slope * one ≤ one * one := Int.mul_le_mul_of_nonneg_right gentle unit.le
  generalize slope * -(a.x % one) / one = q at *
  constructor
  · linarith [Int.mul_nonneg start rising]
  · refine le_of_mul_le_mul_right ?_ unit
    linarith

/-- A falling line keeps between the ends of its segment, up to one pixel and what the start is
rounded by. -/
theorem heightAt_falling (falling : slope ≤ 0) (gentle : -one ≤ slope)
    (reach : (b.y - a.y) * one ≤ slope * (b.x - a.x)) (start : 0 ≤ k)
    (last : k ≤ b.x / one - a.x / one + 1) :
    b.y - one - 1 ≤ heightAt a slope k ∧ heightAt a slope k ≤ a.y + one := by
  unfold heightAt
  have unit : (0 : Int) < one := by decide
  obtain ⟨fraction, steps⟩ := steps_most last
  have offset := Int.lt_ediv_add_one_mul_self (slope * -(a.x % one)) unit
  have ahead : slope * -(a.x % one) / one ≤ one := by
    refine Int.ediv_le_of_le_mul unit ?_
    have product : -slope * (a.x % one) ≤ one * one :=
      Int.mul_le_mul (by omega) fraction.2 fraction.1 unit.le
    linarith
  have climbed : -slope * (k * one - a.x % one) ≤ -slope * (b.x - a.x + one) :=
    Int.mul_le_mul_of_nonneg_left steps (by omega)
  have more : -slope * one ≤ one * one := Int.mul_le_mul_of_nonneg_right (by omega) unit.le
  generalize slope * -(a.x % one) / one = q at *
  constructor
  · refine le_of_mul_le_mul_right ?_ unit
    linarith
  · linarith [Int.mul_nonneg start (by omega : 0 ≤ -slope)]

end

structure Segment.IsGentle (s : Segment) : Prop where
  ahead : s.a.x ≤ s.b.x
  gentle : ((s.b.y - s.a.y).natAbs : Int) ≤ s.b.x - s.a.x

theorem heightAt_between {s : Segment} {k : Int} (gentle : s.IsGentle) {low high : Int}
    (first : low ≤ s.a.y ∧ s.a.y ≤ high) (second : low ≤ s.b.y ∧ s.b.y ≤ high)
    (start : 0 ≤ k) (last : k ≤ s.b.x / one - s.a.x / one + 1) :
    low - one - 1 ≤ heightAt s.a (slopeOf (s.b.x - s.a.x) (s.b.y - s.a.y)) k ∧
      heightAt s.a (slopeOf (s.b.x - s.a.x) (s.b.y - s.a.y)) k ≤ high + one := by
  have shorter := gentle.gentle
  rcases le_total 0 (s.b.y - s.a.y) with rising | falling
  · obtain ⟨rises, below, reach⟩ := slopeOf_rising rising (by omega : _ ≤ s.b.x - s.a.x)
    have within := heightAt_rising rises below reach start last
    omega
  · obtain ⟨falls, below, reach⟩ := slopeOf_falling falling (by omega : -_ ≤ s.b.x - s.a.x)
    have within := heightAt_falling falls below reach start last
    omega

theorem leftToRight_gentle {s : Segment} (flat : (s.b.y - s.a.y).natAbs ≤ (s.b.x - s.a.x).natAbs) :
    s.leftToRight.IsGentle := by
  obtain ⟨⟨left, top⟩, ⟨right, bottom⟩⟩ := s
  simp only [Segment.leftToRight] at flat ⊢
  split <;> constructor <;> dsimp only <;> omega

theorem leftToRight_holds {e : Extent} {s : Segment} (first : e.Holds s.a) (second : e.Holds s.b) :
    e.Holds s.leftToRight.a ∧ e.Holds s.leftToRight.b := by
  unfold Segment.leftToRight
  split
  · exact ⟨second, first⟩
  · exact ⟨first, second⟩

section

variable {e : Extent} {steep : Bool} {gainHere x y h row : Int} {t : Touch}

/-- Across a position that is at most a pixel off the rectangle's rows a line touches at most two
rows off, and where it is faint, with any strength at most one. -/
theorem Touch.Across.rows (across : t.Across steep gainHere x (h + 32768) row)
    (within : e.scaled.top - one - 1 ≤ h ∧ h ≤ e.scaled.bottom + one) :
    (e.top - 2 ≤ row ∧ row ≤ e.bottom + 2) ∧
      (0 ≤ gainHere ∧ gainHere ≤ 4 → t.strength = 0 ∨ e.top - 1 ≤ row ∧ row ≤ e.bottom + 1) := by
  have near := across.near
  refine ⟨by simp only [Extent.scaled, one] at *; omega, fun faint => ?_⟩
  have weak := across.faint faint
  by_cases before : row = (h + 32768) / one - 1 ∧ 32767 ≤ (h + 32768) % one
  · exact .inl (weak.1 before.1 before.2)
  · by_cases behind : row = (h + 32768) / one + 1 ∧ (h + 32768) % one ≤ 32768
    · exact .inl (weak.2 behind.1 behind.2)
    · refine .inr ?_
      simp only [Extent.scaled, one] at *
      omega

/-- Up to two rows off along the rectangle, and one row off beyond its end, a touch is near. -/
theorem Touch.Across.isNear (across : t.Across steep gainHere x y row)
    (held : e.left ≤ e.right ∧ e.top ≤ e.bottom) (long : e.left ≤ x ∧ x ≤ e.right + 1)
    (short : e.top - 2 ≤ row ∧ row ≤ e.bottom + 2)
    (beyond : e.right < x → e.top - 1 ≤ row ∧ row ≤ e.bottom + 1) :
    ∃ p, Near e.Holds p ∧ (0 ≤ p.x ∧ 0 ≤ p.y) ∧ t.place = placed steep p.x p.y := by
  refine ⟨⟨x, row⟩, ⟨⟨min x e.right, max e.top (min row e.bottom)⟩, ?_, ?_⟩,
    across.inside, across.place⟩
  · constructor <;> dsimp only <;> omega
  · dsimp only
    omega

end

/-- The touches of a line in the coordinates of its longer axis. -/
theorem ramp_near {e : Extent} {s : Segment} {r : Ramp} {t : Touch} (gentle : s.IsGentle)
    (first : e.scaled.Holds s.a) (second : e.scaled.Holds s.b)
    (isSlope : r.slope = slopeOf (s.b.x - s.a.x) (s.b.y - s.a.y))
    (faint : s.b.x % one = 0 → 0 ≤ r.gains.getD 6 0 ∧ r.gains.getD 6 0 ≤ 4)
    (member : t ∈ r.touches 0 (s.a.x / one) (s.a.y + r.slope * -(s.a.x % one) / one + 32768)
      ((s.b.x + one) / one - s.a.x / one + 1).toNat) :
    t.strength = 0 ∨ ∃ p, Near e.Holds p ∧ (0 ≤ p.x ∧ 0 ≤ p.y) ∧
      t.place = placed r.steep p.x p.y := by
  have ahead := gentle.ahead
  obtain ⟨steps, isCount⟩ : ∃ steps : Nat, (steps : Int) = s.b.x / one - s.a.x / one + 1 :=
    ⟨(s.b.x / one - s.a.x / one + 1).toNat, by simp only [one]; omega⟩
  rw [show ((s.b.x + one) / one - s.a.x / one + 1).toNat = steps + 1 by
    simp only [one] at *; omega] at member
  obtain ⟨k, before, row, across⟩ := Ramp.touches_across member
  obtain ⟨aLeft, aRight, aTop, aBottom⟩ := first
  obtain ⟨bLeft, bRight, bTop, bBottom⟩ := second
  have within := heightAt_between gentle ⟨aTop, aBottom⟩ ⟨bTop, bBottom⟩ k.cast_nonneg (by omega)
  rw [← isSlope] at within
  rw [show s.a.y + r.slope * -(s.a.x % one) / one + 32768 + k * r.slope =
      heightAt s.a r.slope k + 32768 by unfold heightAt; ring] at across
  obtain ⟨rows, faintRows⟩ := across.rows within
  have held : e.left ≤ e.right ∧ e.top ≤ e.bottom := by
    simp only [Extent.scaled, one] at *
    omega
  have long : e.left ≤ s.a.x / one + k ∧ s.a.x / one + k ≤ e.right + 1 := by
    simp only [Extent.scaled, one] at *
    omega
  by_cases beyond : e.right < s.a.x / one + k
  · -- the step beyond the end: it is the last one, and nothing of its first pixel has been used
    obtain ⟨last, used⟩ : k = steps ∧ s.b.x = e.right * one := by
      simp only [Extent.scaled, one] at *
      omega
    rcases Nat.lt_or_ge k 2 with single | several
    · have still : s.b.x - s.a.x = 0 ∧ s.b.y - s.a.y = 0 := by
        have shorter := gentle.gentle
        simp only [Extent.scaled, one] at *
        omega
      have level : heightAt s.a r.slope k = s.a.y := by
        rw [heightAt, isSlope, still.1, still.2, slopeOf, Int.zero_mul, Int.zero_tdiv]
        simp
      have near := across.near
      rw [level] at near
      refine .inr (across.isNear held long rows fun _ => ?_)
      simp only [Extent.scaled, one] at *
      omega
    · rw [show min (0 + k) 2 * 3 + min (steps - k) 2 = 6 by omega] at faintRows
      exact (faintRows (faint (by rw [used, Int.mul_emod_left]))).imp_right fun short =>
        across.isNear held long rows fun _ => short
  · exact .inr (across.isNear held long rows fun never => absurd never beyond)

/-- A smoothed line touches only pixels at most two away from a rectangle that holds its ends. -/
theorem smoothTouches_near {e : Extent} {width height : Nat} {s : Segment} {t : Touch}
    (small : e.scaled.IsSmall) (first : e.scaled.Holds s.a) (second : e.scaled.Holds s.b)
    (member : t ∈ smoothTouches width height s) :
    t.strength = 0 ∨ Near e.Holds t.place ∧ 0 ≤ t.x ∧ 0 ≤ t.y := by
  unfold smoothTouches at member
  split at member
  · cases member
  · next inner clipped =>
    obtain ⟨aHolds, bHolds⟩ := clip?_holds small first second clipped
    simp only at member
    generalize isSteep :
      (!(decide ((inner.b.y - inner.a.y).natAbs < (inner.b.x - inner.a.x).natAbs))) =
        steep at member
    have faint (s : Segment) (i : Int) (used : s.b.x % one = 0) :
        0 ≤ (endGains (gain (slopeOf (s.b.x - s.a.x) (s.b.y - s.a.y))) i
            ((s.b.x + one) / 512 / 8 % 16 * 8)).getD 6 0 ∧
          (endGains (gain (slopeOf (s.b.x - s.a.x) (s.b.y - s.a.y))) i
            ((s.b.x + one) / 512 / 8 % 16 * 8)).getD 6 0 ≤ 4 := by
      rw [show (s.b.x + one) / 512 / 8 % 16 * 8 = 0 by simp only [one] at *; omega]
      exact endGains_faint _ _
    cases steep with
    | false =>
        rw [Bool.not_eq_false', decide_eq_true_eq] at isSteep
        obtain ⟨a, b⟩ := leftToRight_holds aHolds bHolds
        refine (ramp_near (leftToRight_gentle isSteep.le) a b rfl (faint _ _) member).imp_right ?_
        rintro ⟨⟨x, y⟩, near, inside, place⟩
        cases place
        exact ⟨near, inside⟩
    | true =>
        rw [Bool.not_eq_true', decide_eq_false_iff_not, not_lt] at isSteep
        obtain ⟨a, b⟩ :=
          leftToRight_holds (s := ⟨inner.a.swap, inner.b.swap⟩) aHolds.swap bHolds.swap
        refine (ramp_near (e := e.swap) (leftToRight_gentle isSteep) a b rfl (faint _ _)
          member).imp_right ?_
        rintro ⟨⟨x, y⟩, near, inside, place⟩
        cases place
        exact ⟨near.swap, inside.symm⟩

end HatReel.Draw
