import HatReel.Proofs.Contour.Borders

/-! What a scan of a picture finds.

Every contour has a point, and all its points are pixels that are not zero. A scan that finds no
contour has seen every pixel unmarked, so that none is missed where there is any. -/

namespace HatReel.Contour

open HatReel.Draw HatReel.Image

def IsContour (f : Frame) (c : List Point) : Prop := c ≠ [] ∧ ∀ q ∈ c, OnBright f q

variable {f : Frame} {g : Grid} {p : Nat × Nat}

theorem clockwise?_isSet {origin s : Nat} (found : clockwise? g p origin = some s) :
    s < 8 ∧ g.isSet (neighbour p s) = true := by
  unfold clockwise? at found
  have isSet := List.find?_some found
  obtain ⟨k, -, rfl⟩ := List.mem_map.mp (List.mem_of_find?_eq_some found)
  exact ⟨Nat.mod_lt _ (by decide), isSet⟩

theorem trace_contour (pictures : g.Pictures f) (shows : Shows f p) (isHole : Bool) :
    IsContour f (trace g p isHole).1 ∧ (trace g p isHole).2.Pictures f := by
  unfold trace
  cases found : clockwise? g p (if isHole then 0 else 4) with
  | none =>
      refine ⟨⟨by simp, fun q member => ?_⟩, Grid.pictures_set pictures shows (by decide)⟩
      exact List.mem_singleton.mp member ▸ shows.onBright
  | some s =>
      obtain ⟨isDirection, isSet⟩ := clockwise?_isSet found
      obtain ⟨bright, marked⟩ := follow_bright p (neighbour p s) (8 * g.marks.size + 8)
        ((s + 4) % 8) pictures shows isDirection isSet
      refine ⟨⟨fun empty => ?_, bright⟩, marked⟩
      -- a straight way through the whole picture would be longer than the picture
      have here : IsAhead (pointOf p) ((s + 4) % 8) 0 (pointOf p) := by simp [IsAhead]
      have bound := follow_straight shows _ pictures shows isDirection isSet here empty
      have wide : f.width ≤ g.marks.size := by
        rw [pictures.marks]
        nlinarith
      have high : f.height ≤ g.marks.size := by
        rw [pictures.marks]
        nlinarith
      omega

theorem blank_iff (pictures : g.Pictures f) {x y : Nat} (column : x ≤ f.width)
    (row : y ≤ f.height) :
    g.get x y ≠ .blank ↔ Shows f (x, y) := pictures.set_iff x (by omega) y (by omega)

theorem scanRow_contours {y : Nat} (row : y ≤ f.height) (n : Nat) (pictures : g.Pictures f)
    (x : Nat) (before : Mark) (columns : x + n ≤ f.width + 1)
    (left : before ≠ .blank → Shows f (x - 1, y)) :
    (∀ c ∈ (scanRow y n g before x).1, IsContour f c) ∧ (scanRow y n g before x).2.Pictures f := by
  induction n generalizing g before x with
  | zero => exact ⟨by simp [scanRow], pictures⟩
  | succ n ih =>
      have here := blank_iff pictures (x := x) (by omega) row
      have next {g' : Grid} (pictures' : g'.Pictures f) :
          g'.get x y ≠ .blank → Shows f (x + 1 - 1, y) :=
        (blank_iff pictures' (by omega) row).mp
      unfold scanRow
      simp only
      split
      · next same =>
        rw [beq_iff_eq] at same
        exact ih pictures _ _ (by omega) (same ▸ next pictures)
      · split
        · next outer =>
          have fresh : g.get x y = .fresh := by simpa using (Bool.and_eq_true_iff.mp outer).2
          obtain ⟨contour, marked⟩ := trace_contour pictures (here.mp (by simp [fresh])) false
          obtain ⟨rest, grid⟩ := ih marked (x + 1) ((trace g (x, y) false).2.get x y)
            (by omega) (next marked)
          exact ⟨List.forall_mem_cons.mpr ⟨contour, rest⟩, grid⟩
        · split
          · next hole =>
            have marked : before ≠ .blank := by
              rintro rfl
              simp at hole
            obtain ⟨contour, marked⟩ := trace_contour pictures (left marked) true
            obtain ⟨rest, grid⟩ := ih marked (x + 1) ((trace g (x - 1, y) true).2.get x y)
              (by omega) (next marked)
            exact ⟨List.forall_mem_cons.mpr ⟨contour, rest⟩, grid⟩
          · exact ih pictures _ _ (by omega) (next pictures)

theorem scanRows_contours (n : Nat) {y : Nat} (pictures : g.Pictures f)
    (rows : y + n ≤ f.height + 1) :
    ∀ c ∈ scanRows f.width n g y, IsContour f c := by
  induction n generalizing g y with
  | zero => simp [scanRows]
  | succ n ih =>
      obtain ⟨contours, grid⟩ := scanRow_contours (by omega : y ≤ f.height) f.width pictures 1
        .blank (by omega) (fun marked => absurd rfl marked)
      intro c member
      rcases List.mem_append.mp member with here | later
      · exact contours c here
      · exact ih grid (by omega) c later

def Grid.IsUnfollowed (g : Grid) : Prop := ∀ x y, g.get x y = .blank ∨ g.get x y = .fresh

theorem unfollowed_ofFrame (f : Frame) : (Grid.ofFrame f).IsUnfollowed := by
  intro x y
  simp only [Grid.ofFrame, Grid.get, Array.getD_eq_getD_getElem?, Array.getElem?_ofFn]
  split
  · simp only [Option.getD_some]
    split
    · exact .inl rfl
    · split
      · exact .inl rfl
      · exact .inr rfl
  · exact .inl rfl

theorem scanRow_empty {y : Nat} (n : Nat) {x : Nat} (unfollowed : g.IsUnfollowed)
    (empty : (scanRow y n g .blank x).1 = []) :
    (scanRow y n g .blank x).2 = g ∧ ∀ i < n, g.get (x + i) y = .blank := by
  induction n generalizing x with
  | zero => exact ⟨rfl, by omega⟩
  | succ n ih =>
      unfold scanRow at empty ⊢
      simp only at empty ⊢
      rcases unfollowed x y with blank | fresh
      · simp only [blank, beq_self_eq_true, if_true] at empty ⊢
        obtain ⟨same, rest⟩ := ih empty
        refine ⟨same, fun i before => ?_⟩
        cases i with
        | zero => exact blank
        | succ i =>
            rw [← Nat.add_assoc, Nat.add_right_comm]
            exact rest i (by omega)
      · simp [fresh] at empty

theorem scanRows_empty {width : Nat} (n : Nat) {y : Nat} (unfollowed : g.IsUnfollowed)
    (empty : scanRows width n g y = []) : ∀ j < n, ∀ i < width, g.get (1 + i) (y + j) = .blank := by
  induction n generalizing y with
  | zero => omega
  | succ n ih =>
      obtain ⟨here, later⟩ := List.append_eq_nil_iff.mp empty
      obtain ⟨same, row⟩ := scanRow_empty width unfollowed here
      rw [same] at later
      intro j before
      cases j with
      | zero => exact row
      | succ j =>
          rw [← Nat.add_assoc, Nat.add_right_comm]
          exact ih later j (by omega)

/-- The contours of a picture are contours, and there are some exactly if some pixel is not zero. -/
theorem contours_found {cs : List (List Point)} (found : contours? f = some cs) :
    (∀ c ∈ cs, IsContour f c) ∧ (cs = [] ↔ ∀ x y, f.byte x y 0 = 0) := by
  unfold contours? at found
  split at found
  · cases found
    have contours := scanRows_contours f.height (y := 1) (Grid.pictures_ofFrame f) (by omega)
    refine ⟨fun c member => contours c (List.mem_reverse.mp member), fun empty x y => ?_,
      fun zero => ?_⟩
    · by_contra bright
      obtain ⟨left, above⟩ := bright_inside bright
      have blank := scanRows_empty f.height (unfollowed_ofFrame f)
        (List.reverse_eq_nil_iff.mp empty) y above x left
      have shows : Shows f (1 + x, 1 + y) := ⟨by simp, by simp, by simpa using bright⟩
      exact ((Grid.pictures_ofFrame f).set_iff _ (by omega) _ (by omega)).mpr shows blank
    · rw [List.reverse_eq_nil_iff, List.eq_nil_iff_forall_not_mem]
      intro c member
      obtain ⟨filled, bright⟩ := contours c member
      obtain ⟨q, rest, rfl⟩ := List.exists_cons_of_ne_nil filled
      exact (bright q List.mem_cons_self).2 (zero _ _)
  · cases found

end HatReel.Contour
