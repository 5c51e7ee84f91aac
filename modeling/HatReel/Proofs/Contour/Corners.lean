import HatReel.Contour.Drawing

/-! A simplified polygon has corners, and all of them are corners of the given one.

An arc is kept by its first corners; dropping corners afterwards rewrites a circle of corners with
corners of its own, and stops at two. -/

namespace HatReel.Contour

open HatReel.Draw

theorem corner_mem {ps : Array Point} (filled : ps.size ≠ 0) (i : Nat) : corner ps i ∈ ps := by
  have inside : i % ps.size < ps.size := Nat.mod_lt _ (by omega)
  rw [corner, Array.getD_eq_getD_getElem?, Array.getElem?_eq_getElem inside]
  exact Array.getElem_mem inside

def IsPart (ps : Array Point) (qs : List Point) : Prop := qs ≠ [] ∧ ∀ q ∈ qs, q ∈ ps

theorem isPart_append {ps : Array Point} {qs rs : List Point} (first : IsPart ps qs)
    (second : IsPart ps rs) : IsPart ps (qs ++ rs) :=
  ⟨List.append_ne_nil_of_left_ne_nil first.1 rs, List.forall_mem_append.mpr ⟨first.2, second.2⟩⟩

theorem isPart_single {ps : Array Point} (filled : ps.size ≠ 0) (i : Nat) :
    IsPart ps [corner ps i] :=
  ⟨List.cons_ne_nil _ _, fun _ member => List.mem_singleton.mp member ▸ corner_mem filled i⟩

theorem keepArc_part {ps : Array Point} (filled : ps.size ≠ 0) {tolerance : Float} {i n : Nat}
    {kept : List Point} (keeps : keepArc ps tolerance i n = some kept) : IsPart ps kept := by
  induction n using Nat.strongRecOn generalizing i kept with
  | ind n ih =>
      have single := isPart_single filled i
      unfold keepArc at keeps
      simp only at keeps
      split at keeps
      · cases keeps
        exact single
      · split at keeps
        · cases keeps
        · split at keeps
          · cases keeps
            exact single
          · split at keeps
            · next cut =>
              split at keeps
              · cases keeps
              · next head isHead =>
                obtain ⟨tail, isTail, rfl⟩ := Option.map_eq_some_iff.mp keeps
                exact isPart_append (ih _ cut.2 isHead) (ih _ (Nat.sub_lt (by omega) cut.1) isTail)
            · cases keeps
              exact single

/-- What dropping corners keeps up: a circle as large as before, of the same corners, of which some
are kept. -/
structure Circular (m : Nat) (ps : Array Point) (s : Pruning) : Prop where
  size : s.corners.size = m
  corners : ∀ q ∈ s.corners, q ∈ ps
  kept : 1 ≤ s.kept
  start : s.start ∈ ps
  middle : s.middle ∈ ps

theorem circular_prune (tolerance : Float) {m : Nat} (filled : 0 < m) {ps : Array Point} (n : Nat)
    {s : Pruning} (circular : Circular m ps s) : Circular m ps (prune tolerance n s) := by
  induction n using Nat.strongRecOn generalizing s with
  | ind n ih =>
      cases n with
      | zero =>
          rw [prune]
          exact circular
      | succ n =>
          obtain ⟨size, corners, kept, start, middle⟩ := circular
          have replaced {q : Point} (isCorner : q ∈ ps) :
              ∀ r ∈ s.corners.setIfInBounds s.write q, r ∈ ps := by
            intro r member
            rcases Array.mem_or_eq_of_mem_setIfInBounds member with old | new
            · exact corners r old
            · exact new ▸ isCorner
          have read : corner s.corners s.read ∈ ps := corners _ (corner_mem (by omega) _)
          unfold prune
          split
          · exact ⟨size, corners, kept, start, middle⟩
          · next many =>
            simp only
            split
            · refine ih (n - 1) (by omega) ⟨by simpa using size, replaced read, ?_, read, ?_⟩
              · change 1 ≤ s.kept - 1
                omega
              · exact replaced read _ (corner_mem (by simpa [size] using (Nat.ne_of_gt filled)) _)
            · exact ih n (by omega) ⟨by simpa using size, replaced middle, kept, middle, read⟩

theorem pruned_part {ps : Array Point} {kept : List Point} (part : IsPart ps kept)
    (tolerance : Float) :
    IsPart ps (pruned tolerance kept) := by
  have filled : 0 < kept.toArray.size := by
    simpa [List.length_pos_iff] using part.1
  have isCorner (i : Nat) : corner kept.toArray i ∈ ps := by
    have member := corner_mem (Nat.ne_of_gt filled) i
    exact part.2 _ (by simpa using member)
  unfold pruned
  simp only
  generalize start : (⟨kept.toArray, _, _, _, _, _⟩ : Pruning) = s
  have circular : Circular kept.toArray.size ps s := by
    rw [← start]
    exact ⟨rfl, fun q member => part.2 q (by simpa using member), filled, isCorner _, isCorner _⟩
  obtain ⟨size, corners, more, -, -⟩ := circular_prune tolerance filled kept.toArray.size circular
  constructor
  · rw [← List.length_pos_iff, List.length_take, Array.length_toList]
    omega
  · exact fun q member => corners q (Array.mem_toList_iff.mp (List.mem_of_mem_take member))

/-- A polygon that is simplified keeps some of its corners and gets no others. -/
theorem simplify?_part {ps qs : List Point} {epsilon : Float} (filled : ps ≠ [])
    (simplified : simplify? ps epsilon = some qs) : qs ≠ [] ∧ ∀ q ∈ qs, q ∈ ps := by
  have size : ps.toArray.size ≠ 0 := by simpa using filled
  have part : IsPart ps.toArray qs := by
    unfold simplify? at simplified
    split at simplified
    · cases simplified
    · rw [if_neg (by simpa using filled)] at simplified
      simp only at simplified
      split at simplified
      · cases simplified
        exact pruned_part (isPart_single size _) _
      · split at simplified
        · cases simplified
        · next head isHead =>
          obtain ⟨tail, isTail, rfl⟩ := Option.map_eq_some_iff.mp simplified
          exact pruned_part (isPart_append (keepArc_part size isHead) (keepArc_part size isTail)) _
  exact ⟨part.1, fun q member => by simpa using part.2 q member⟩

end HatReel.Contour
