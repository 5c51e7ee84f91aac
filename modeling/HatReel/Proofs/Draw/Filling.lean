import HatReel.Draw.Fill
import HatReel.Proofs.Draw.Smoothing

/-! The filled inside of a polygon stays near its corners.

An edge goes from the column of one corner to that of the next in equal steps, and the rounding of a
step adds up to less than a pixel over all rows. An edge is followed down to its lower corner and no
further: no more rows are passed over than the shorter of both edges has left, and an edge that ends
is replaced. -/

namespace HatReel.Draw

/-- After `k` of `d` rows an edge from column `a` to column `b` is between the two, up to
rounding. -/
theorem edge_between {a b d k low high : Int} (first : low ≤ a ∧ a ≤ high)
    (second : low ≤ b ∧ b ≤ high) (long : 0 < d) (start : 0 ≤ k) (last : k ≤ d) :
    low - d ≤ a + Int.tdiv ((b - a) * 2 + d) (2 * d) * k ∧
      a + Int.tdiv ((b - a) * 2 + d) (2 * d) * k ≤ high + 2 * d := by
  generalize isSlope : Int.tdiv ((b - a) * 2 + d) (2 * d) = slope
  have positive : 0 < 2 * d := by omega
  have reached : b - a - d ≤ slope * d ∧ slope * d ≤ b - a + 2 * d := by
    have doubled : slope * (2 * d) = 2 * (slope * d) := by ring
    rcases le_or_gt 0 ((b - a) * 2 + d) with right | left
    · rw [Int.tdiv_eq_ediv_of_nonneg right] at isSlope
      have upper := Int.ediv_mul_le ((b - a) * 2 + d) positive.ne'
      have lower := Int.lt_ediv_add_one_mul_self ((b - a) * 2 + d) positive
      rw [isSlope, doubled] at upper
      rw [isSlope, Int.add_mul, doubled] at lower
      omega
    · rw [← Int.neg_neg ((b - a) * 2 + d), Int.neg_tdiv,
        Int.tdiv_eq_ediv_of_nonneg (by omega)] at isSlope
      have upper := Int.ediv_mul_le (-((b - a) * 2 + d)) positive.ne'
      have lower := Int.lt_ediv_add_one_mul_self (-((b - a) * 2 + d)) positive
      rw [show -((b - a) * 2 + d) / (2 * d) = -slope by omega, Int.neg_mul, doubled] at upper
      rw [show -((b - a) * 2 + d) / (2 * d) = -slope by omega, Int.add_mul, Int.neg_mul,
        doubled] at lower
      omega
  rcases le_total 0 slope with rightward | leftward
  · have product := Int.mul_nonneg rightward start
    have most := Int.mul_le_mul_of_nonneg_left last rightward
    omega
  · have product := Int.mul_nonneg_of_nonpos_of_nonpos leftward (by omega : -k ≤ 0)
    have most := Int.mul_le_mul_of_nonpos_left leftward last
    rw [Int.mul_neg] at product
    omega

/-- An edge that ends on row `y` or below, and whose columns down to its end are at most one pixel
off the rectangle's. -/
structure Edge.Runs (count : Nat) (e : Extent) (y : Int) (edge : Edge) : Prop where
  corner : edge.corner < count
  bottom : y ≤ edge.bottom
  column : ∀ k, 0 ≤ k → y + k ≤ edge.bottom →
    (e.left - 1) * one ≤ edge.x + edge.slope * k ∧ edge.x + edge.slope * k ≤ (e.right + 1) * one

/-- An edge that runs on, or that ends here. -/
structure Edge.Ready (count : Nat) (e : Extent) (y : Int) (edge : Edge) : Prop where
  corner : edge.corner < count
  runs : y < edge.bottom → edge.Runs count e y

theorem Edge.Runs.ready {count : Nat} {e : Extent} {y : Int} {edge : Edge}
    (runs : edge.Runs count e y) :
    edge.Ready count e y := ⟨runs.corner, fun _ => runs⟩

section

variable {corners : Array Point} {e : Extent} {y : Int}

theorem nextEdge_runs (inside : ∀ p ∈ corners, e.Holds p) (short : e.bottom - y ≤ 32768)
    {turn left i rest : Nat} {edge : Edge} (corner : i < corners.size)
    (found : nextEdge corners turn y left i = some (edge, rest)) :
    edge.Runs corners.size e y ∧ y < edge.bottom := by
  induction left generalizing i with
  | zero => cases found
  | succ left ih =>
      have next : (i + turn) % corners.size < corners.size :=
        Nat.mod_lt _ (Nat.zero_lt_of_lt corner)
      have held {j : Nat} (bound : j < corners.size) : e.Holds (corners.getD j ⟨0, 0⟩) := by
        rw [Array.getD_eq_getD_getElem?, Array.getElem?_eq_getElem bound]
        exact inside _ (Array.getElem_mem bound)
      have first := held corner
      have second := held next
      rw [nextEdge] at found
      simp only at found
      generalize corners.getD i ⟨0, 0⟩ = p at first found
      generalize corners.getD ((i + turn) % corners.size) ⟨0, 0⟩ = q at second found
      split at found
      · next below =>
        cases found
        refine ⟨⟨next, below.le, fun k start last => ?_⟩, below⟩
        change y + k ≤ q.y at last
        have rows := second.bottom
        have here := first.scaled
        have there := second.scaled
        have between := edge_between ⟨here.left, here.right⟩ ⟨there.left, there.right⟩
          (by omega : 0 < q.y - y) start (by omega)
        simp only [Point.scaled, Extent.scaled, one] at between ⊢
        omega
      · exact ih next found

structure Front.Runs (count : Nat) (e : Extent) (y : Int) (f : Front) : Prop where
  left : f.left.Runs count e y
  right : f.right.Runs count e y

structure Front.Ready (count : Nat) (e : Extent) (y : Int) (f : Front) : Prop where
  left : f.left.Ready count e y
  right : f.right.Ready count e y

variable {f f' : Front}

def Edge.renew (corners : Array Point) (y : Int) (n : Nat) (edge : Edge) : Option (Edge × Nat) :=
  if edge.bottom ≤ y then nextEdge corners edge.turn y n edge.corner else some (edge, n)

theorem renew_eq : f.renew corners y =
    (f.left.renew corners y f.corners).bind fun (left, n) =>
      (f.right.renew corners y n).map fun (right, n) => ⟨left, right, n⟩ := by
  unfold Front.renew Edge.renew
  by_cases left : f.left.bottom ≤ y <;> by_cases right : f.right.bottom ≤ y <;>
    simp only [left, right, if_true, if_false, Option.map_eq_bind] <;> rfl

theorem edgeRenew_runs (inside : ∀ p ∈ corners, e.Holds p) (short : e.bottom - y ≤ 32768)
    {old new : Edge} {n m : Nat} (ready : old.Ready corners.size e y)
    (renewed : old.renew corners y n = some (new, m)) :
    new.Runs corners.size e y ∧ y < new.bottom := by
  unfold Edge.renew at renewed
  split at renewed
  · exact nextEdge_runs inside short ready.corner renewed
  · next later =>
    cases renewed
    exact ⟨ready.runs (by omega), by omega⟩

theorem renew_runs (inside : ∀ p ∈ corners, e.Holds p) (short : e.bottom - y ≤ 32768)
    (ready : f.Ready corners.size e y) (renewed : f.renew corners y = some f') :
    f'.Runs corners.size e y ∧ y < f'.left.bottom ∧ y < f'.right.bottom := by
  rw [renew_eq] at renewed
  obtain ⟨⟨left, n⟩, isLeft, renewed⟩ := Option.bind_eq_some_iff.mp renewed
  obtain ⟨⟨right, m⟩, isRight, renewed⟩ := Option.map_eq_some_iff.mp renewed
  cases renewed
  obtain ⟨leftRuns, leftEnds⟩ := edgeRenew_runs inside short ready.left isLeft
  obtain ⟨rightRuns, rightEnds⟩ := edgeRenew_runs inside short ready.right isRight
  exact ⟨⟨leftRuns, rightRuns⟩, leftEnds, rightEnds⟩

theorem rows_most (left : y < f.left.bottom) (right : y < f.right.bottom) :
    y + f.rows y ≤ f.left.bottom ∧ y + f.rows y ≤ f.right.bottom := by
  unfold Front.rows
  split <;> omega

theorem rows_positive (y : Int) (f : Front) : 1 ≤ f.rows y := by
  unfold Front.rows
  split <;> omega

theorem descend_runs {count : Nat} {rows : Int} (runs : f.Runs count e y) (down : 0 ≤ rows)
    (left : y + rows ≤ f.left.bottom) (right : y + rows ≤ f.right.bottom) :
    (f.descend rows).Runs count e (y + rows) := by
  have moved {edge : Edge} (runs : edge.Runs count e y) (before : y + rows ≤ edge.bottom) :
      Edge.Runs count e (y + rows) { edge with x := edge.x + edge.slope * rows } := by
    refine ⟨runs.corner, before, fun k start last => ?_⟩
    change y + rows + k ≤ edge.bottom at last
    have column := runs.column (rows + k) (by omega) (by omega)
    rwa [Int.mul_add, ← Int.add_assoc] at column
  exact ⟨moved runs.left left, moved runs.right right⟩

structure Span.Near (e : Extent) (s : Span) : Prop where
  top : e.top ≤ s.y
  bottom : s.y ≤ e.bottom
  first : e.left - 1 ≤ s.first
  last : s.last ≤ e.right + 1

theorem span?_near {count width : Nat} {s : Span} (runs : f.Runs count e y) (top : e.top ≤ y)
    (bottom : y ≤ e.bottom) (filled : f.span? width y = some s) : s.Near e := by
  have left := runs.left.column 0 le_rfl (by rw [Int.add_zero]; exact runs.left.bottom)
  have right := runs.right.column 0 le_rfl (by rw [Int.add_zero]; exact runs.right.bottom)
  rw [Int.mul_zero, Int.add_zero] at left right
  unfold Front.span? at filled
  simp only at filled
  split at filled
  · next within =>
    cases filled
    simp only [Bool.and_eq_true, decide_eq_true_eq] at within
    constructor <;> simp only [one] at within left right ⊢ <;> omega
  · cases filled

/-- What one visit of a row keeps: both edges run on the row, and on the next one that is
visited. -/
theorem visit_runs (inside : ∀ p ∈ corners, e.Holds p) (short : e.bottom - y ≤ 32768)
    {top bottom : Int} (ready : f.Ready corners.size e y) (runs : y ≠ top → f.Runs corners.size e y)
    (renewed : (if y < bottom || y == top then f.renew corners y else some f) = some f') :
    f'.Runs corners.size e y ∧
      (y + f'.rows y ≤ bottom → (f'.descend (f'.rows y)).Runs corners.size e (y + f'.rows y)) := by
  have rowsPositive := rows_positive y f'
  split at renewed
  · obtain ⟨runs, left, right⟩ := renew_runs inside short ready renewed
    obtain ⟨left, right⟩ := rows_most left right
    exact ⟨runs, fun _ => descend_runs runs (by omega) left right⟩
  · next settled =>
    simp only [Bool.or_eq_true, decide_eq_true_eq, beq_iff_eq, not_or] at settled
    cases renewed
    exact ⟨runs settled.2, fun _ => by omega⟩

/-- Every filled row is near the rectangle that holds the corners. -/
theorem fillRows_near (inside : ∀ p ∈ corners, e.Holds p) (short : e.bottom - e.top ≤ 32768)
    {width : Nat} {top bottom : Int} (first : e.top ≤ top) (last : bottom ≤ e.bottom) {fuel : Nat}
    (begun : top ≤ y) (visible : y ≤ bottom) (ready : f.Ready corners.size e y)
    (runs : y ≠ top → f.Runs corners.size e y) {s : Span}
    (filled : s ∈ fillRows corners width top bottom fuel y f) : s.Near e := by
  induction fuel generalizing y f with
  | zero => cases filled
  | succ fuel ih =>
      rw [fillRows] at filled
      simp only at filled
      split at filled
      · cases filled
      · next f' renewed =>
        obtain ⟨here, later⟩ := visit_runs inside (by omega) ready runs renewed
        rcases List.mem_append.mp filled with now | below
        · exact span?_near here (by omega) (by omega) (Option.mem_toList.mp now)
        · split at below
          · next more =>
            have rowsPositive := rows_positive y f'
            have next := later more
            exact ih (by omega) more ⟨next.left.ready, next.right.ready⟩ (fun _ => next) below
          · cases below

end

theorem lowest_spec {vs : List Int} (filled : vs ≠ []) :
    lowest vs ∈ vs ∧ ∀ v ∈ vs, lowest vs ≤ v := by
  rw [← List.min?_eq_some_iff]
  cases vs with
  | nil => exact absurd rfl filled
  | cons v rest => rw [List.min?_cons', lowest, List.headD_cons, List.foldl_cons, min_self]

theorem highest_spec {vs : List Int} (filled : vs ≠ []) :
    highest vs ∈ vs ∧ ∀ v ∈ vs, v ≤ highest vs := by
  rw [← List.max?_eq_some_iff]
  cases vs with
  | nil => exact absurd rfl filled
  | cons v rest => rw [List.max?_cons', highest, List.headD_cons, List.foldl_cons, max_self]

/-- All that is filled of a polygon is near every rectangle that holds its corners. -/
theorem fillSpans_near {e : Extent} {width height : Nat} {ps : List Point} (filled : ps ≠ [])
    (inside : ∀ p ∈ ps, e.Holds p) (short : e.bottom - e.top ≤ 32768) {s : Span}
    (filled : s ∈ fillSpans width height ps) : s.Near e := by
  have rows : ps.map Point.y ≠ [] := by rwa [ne_eq, List.map_eq_nil_iff]
  obtain ⟨lowestIn, -⟩ := lowest_spec rows
  obtain ⟨highestIn, leHighest⟩ := highest_spec rows
  unfold fillSpans at filled
  simp only at filled
  split at filled
  · cases filled
  · next visible =>
    simp only [Bool.or_eq_true, decide_eq_true_eq, not_or] at visible
    obtain ⟨p, member, isTop⟩ := List.mem_map.mp lowestIn
    obtain ⟨q, member', isBottom⟩ := List.mem_map.mp highestIn
    have top := (inside p member).top
    have bottom := (inside q member').bottom
    have first : (ps.map Point.y).findIdx (· == lowest (ps.map Point.y)) < ps.toArray.size := by
      rw [List.size_toArray, ← List.length_map (f := Point.y)]
      exact List.findIdx_lt_length_of_exists ⟨_, lowestIn, beq_self_eq_true _⟩
    have between := leHighest _ lowestIn
    refine fillRows_near (fun p member => inside p (List.mem_toArray.mp member)) short
      (by omega) (by omega) le_rfl (by omega) ⟨⟨first, fun never => ?_⟩, ⟨first, fun never => ?_⟩⟩
      (fun never => absurd rfl never) filled
    · exact absurd never (lt_irrefl _)
    · exact absurd never (lt_irrefl _)

end HatReel.Draw
