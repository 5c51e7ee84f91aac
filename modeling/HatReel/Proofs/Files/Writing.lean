import HatReel.Proofs.Files.Operations

/-! What has been written is read.

A path leads through directories only. Writing changes no directory, so afterwards the path leads to
the file that has been written, also where the path goes back through double dots. -/

namespace HatReel.Files.Store

theorem look_onto {s s' : Store} {p : Path} {key : Key} {node new : Node} (keeps : Keeps s s')
    (looked : s.look p = .ok (key, node)) (found : s'.node? key = some new) :
    s'.look p = .ok (key, new) := by
  have followed := look_ok looked
  unfold look at looked ⊢
  split at looked
  · cases looked
  · next fits => rw [if_neg fits, follow_onto keeps followed found]

theorem look_of_place {s s' : Store} {p : Path} {key : Key} {node : Option Node} {new : Node}
    (keeps : Keeps s s') (placed : s.place p = .ok (key, node)) (found : s'.node? key = some new) :
    s'.look p = .ok (key, new) := by
  rcases place_cases placed with ⟨n, looked, -⟩ |
    ⟨names, name, above, split, double, short, fits, followed, rfl, -⟩
  · exact look_onto keeps looked found
  · unfold look
    rw [if_neg fits, split, follow_child double short (follow_keeps keeps followed), found]

theorem place_node {s : Store} {p : Path} {key : Key} {node : Option Node}
    (placed : s.place p = .ok (key, node)) : node = s.node? key := by
  rcases place_cases placed with ⟨n, looked, rfl⟩ | ⟨_, _, _, _, _, _, _, _, _, isNode⟩
  · exact (follow_node (look_ok looked)).symm
  · exact isNode

theorem look_put_place {s : Store} {p : Path} {key : Key} {node : Option Node} {new : List UInt8}
    (placed : s.place p = .ok (key, node)) (noDirectory : node ≠ some .directory) :
    (s.put key (.file new)).look p = .ok (key, .file new) := by
  rw [place_node placed] at noDirectory
  have below := below_of_file noDirectory
  refine look_of_place (keeps_put below noDirectory) placed ?_
  rw [node?_put _ _ _ _ below, if_pos rfl]

theorem openFile_place {s : Store} {p : Path} {key : Key} {old : List UInt8}
    (opened : s.openFile p = .ok (key, old)) :
    p.hasNull = false ∧ ∃ node, s.place p = .ok (key, node) ∧ node ≠ some .directory := by
  unfold openFile at opened
  cases noNull : p.hasNull with
  | true =>
      rw [noNull] at opened
      cases opened
  | false =>
      rw [noNull, if_neg Bool.false_ne_true] at opened
      rcases placed : s.place p with errno | ⟨key', _ | _ | content⟩ <;> rw [placed] at opened <;>
        cases opened
      · exact ⟨rfl, none, rfl, nofun⟩
      · exact ⟨rfl, some (.file old), rfl, nofun⟩

theorem read_write {s s' : Store} {p : Path} {content : List UInt8}
    (written : s.write p content = .ok s') :
    s'.exists? p = .ok true ∧ s'.read p = .ok content := by
  unfold write at written
  rcases opened : s.openFile p with fault | ⟨key, old⟩
  · rw [opened] at written
    cases written
  · rw [opened] at written
    cases written
    obtain ⟨noNull, node, placed, noDirectory⟩ := openFile_place opened
    have looked := @look_put_place s p key node content placed noDirectory
    unfold exists? look? read
    rw [noNull, if_neg Bool.false_ne_true, if_neg Bool.false_ne_true, looked]
    exact ⟨rfl, rfl⟩

end HatReel.Files.Store
