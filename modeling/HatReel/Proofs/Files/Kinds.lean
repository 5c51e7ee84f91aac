import HatReel.Proofs.Files.Trails
import HatReel.Proofs.Rig.Events

/-! What the operations on a path find out depends on its trail only.

Two stores that look alike on the trail of a path give the same answers about it, and look alike
again after the same change. Where a directory can be made, for example, depends on what is a file
and what is a directory there, and not on what the files hold. -/

namespace HatReel.Files

def Node.isDirectory : Node → Bool
  | .directory => true
  | .file _ => false

namespace Store

/-- A view of nodes that tells files from directories. -/
def Tells {ν : Type} (view : Node → ν) : Prop :=
  ∀ a b, view a = view b → a.isDirectory = b.isDirectory

theorem tells_isDirectory : Tells Node.isDirectory := fun _ _ same => same

theorem tells_id : Tells (id : Node → Node) := fun _ _ same => congrArg Node.isDirectory same

/-- Two stores look alike on some keys, as far as a view of nodes tells. -/
def Like {ν : Type} (on : Key → Prop) (view : Node → ν) (s s' : Store) : Prop :=
  ∀ key, on key → (s'.node? key).map view = (s.node? key).map view

abbrev SameKinds (s s' : Store) : Prop := Like (fun _ => True) Node.isDirectory s s'

abbrev Agree (on : Key → Prop) (s s' : Store) : Prop := Like on (id : Node → Node) s s'

/-- Two results that are related, or the same refusal twice. -/
inductive Both {α : Type} (R : α → α → Prop) : Except Errno α → Except Errno α → Prop where
  | found {a b : α} (related : R a b) : Both R (.ok a) (.ok b)
  | refused (errno : Errno) : Both R (.error errno) (.error errno)

section

variable {ν : Type} {on : Key → Prop} {view : Node → ν}

theorem Like.refl (s : Store) : Like on view s s := fun _ _ => rfl

theorem Like.trans {s next last : Store} (first : Like on view s next)
    (second : Like on view next last) : Like on view s last :=
  fun key inside => (second key inside).trans (first key inside)

def LikeNode (view : Node → ν) (a b : Key × Node) : Prop := b.1 = a.1 ∧ view b.2 = view a.2

/-- The same key, which is free both times or leads to nodes that look alike. -/
def LikePlace (view : Node → ν) (a b : Key × Option Node) : Prop :=
  b.1 = a.1 ∧ b.2.map view = a.2.map view

def LikeResult (on : Key → Prop) (view : Node → ν) (a b : Store × Option FileFault) : Prop :=
  Like on view a.1 b.1 ∧ b.2 = a.2

variable {s s' : Store} (like : Like on view s s')

include like

theorem like_put {key : Key} {node node' : Node} (below : ¬(key = [] ∨ key = here))
    (same : view node' = view node) : Like on view (s.put key node) (s'.put key node') := by
  intro other inside
  rw [node?_put _ _ _ _ below, node?_put _ _ _ _ below]
  by_cases isKey : other = key
  · rw [if_pos isKey, if_pos isKey]
    exact congrArg some same
  · rw [if_neg isKey, if_neg isKey]
    exact like other inside

theorem like_remove {key : Key} (below : ¬(key = [] ∨ key = here)) :
    Like on view (s.remove key) (s'.remove key) := by
  intro other inside
  rw [node?_remove _ _ _ below, node?_remove _ _ _ below]
  by_cases isKey : other = key
  · rw [if_pos isKey, if_pos isKey]
  · rw [if_neg isKey, if_neg isKey]
    exact like other inside

variable (tells : Tells view)

include tells

theorem follow_like {key : Key} {names : List String}
    (inside : ∀ k ∈ passed key names, on k) :
    Both (LikeNode view) (s.follow key names) (s'.follow key names) := by
  induction names generalizing key with
  | nil =>
      have alike := like key (inside key (start_mem_passed key []))
      unfold follow
      generalize s.node? key = found, s'.node? key = found' at alike ⊢
      rcases found with _ | node <;> rcases found' with _ | node'
      · exact .refused _
      · cases alike
      · cases alike
      · exact .found ⟨rfl, Option.some.inj alike⟩
  | cons name rest ih =>
      have alike := like key (inside key (start_mem_passed key _))
      unfold follow
      generalize s.node? key = found, s'.node? key = found' at alike ⊢
      rcases found with _ | node <;> rcases found' with _ | node'
      · exact .refused _
      · cases alike
      · cases alike
      · have kinds := tells _ _ (Option.some.inj alike)
        cases node <;> cases node' <;> cases kinds
        · cases entered : enter key name with
          | error errno => exact .refused errno
          | ok next =>
              have isStep := enter_step entered
              exact ih fun k member => inside k (List.mem_cons_of_mem key (isStep ▸ member))
        · exact .refused _

variable {p : Path} (inside : ∀ key ∈ p.trail, on key)

include inside

theorem look_like : Both (LikeNode view) (s.look p) (s'.look p) := by
  unfold look
  split
  · exact .refused _
  · exact follow_like like tells inside

theorem place_like : Both (LikePlace view) (s.place p) (s'.place p) := by
  have there : Both (LikePlace view) ((s.look p).map fun found => (found.1, some found.2))
      ((s'.look p).map fun found => (found.1, some found.2)) := by
    have looks := look_like like tells inside
    generalize s.look p = found, s'.look p = found' at looks ⊢
    cases looks with
    | found related => exact .found ⟨related.1, congrArg some related.2⟩
    | refused errno => exact .refused errno
  unfold place
  split
  · exact there
  · next name named =>
    split
    · exact there
    · next plain =>
      split
      · exact .refused _
      · have onParent : ∀ key ∈ passed (start p) p.names.dropLast, on key :=
          fun key member => inside key (Path.trail_parent member)
        have above := follow_like like tells onParent
        generalize followed : s.follow (start p) p.names.dropLast = found,
          s'.follow (start p) p.names.dropLast = found' at above ⊢
        cases above with
        | refused errno => exact .refused errno
        | @found first second related =>
          obtain ⟨key, node⟩ := first
          obtain ⟨key', node'⟩ := second
          obtain ⟨rfl, alike⟩ := related
          have kinds := tells _ _ alike
          cases node <;> cases node' <;> cases kinds
          · change Both (LikePlace view) (enter key' name >>= fun key => pure (key, s.node? key))
              (enter key' name >>= fun key => pure (key, s'.node? key))
            cases entered : enter key' name with
            | error errno => exact .refused errno
            | ok next =>
                obtain ⟨names, split⟩ := List.getLast?_eq_some_iff.mp named
                have isGoal : next = p.goal := by
                  have above : key' = _ := follow_end followed
                  rw [enter_step entered, above, Path.goal, split, List.dropLast_concat,
                    List.foldl_append]
                  rfl
                refine .found ⟨rfl, like next ?_⟩
                rw [isGoal]
                exact inside _ p.goal_mem_trail
          · exact .refused _

theorem makeDirectory_like : Both (Like on view) (s.makeDirectory p) (s'.makeDirectory p) := by
  have places := place_like like tells inside
  unfold makeDirectory
  rcases placed : s.place p with _ | ⟨key, _ | node⟩ <;>
    rcases placed' : s'.place p with _ | ⟨key', _ | node'⟩ <;> rw [placed, placed'] at places <;>
    cases places
  · exact .refused _
  · next related =>
    obtain ⟨rfl, -⟩ := related
    exact .found (like_put like (below_of_free (place_goal placed).2.symm) rfl)
  · next related => cases related.2
  · next related => cases related.2
  · exact .refused _

/-- Whether a path leads anywhere, and whether to a directory, is the same in both stores. -/
theorem look?_like : (s'.look? p).map (Option.map Node.isDirectory) =
    (s.look? p).map (Option.map Node.isDirectory) := by
  have looks := look_like like tells inside
  unfold look?
  split
  · rfl
  · generalize s.look p = found, s'.look p = found' at looks ⊢
    cases looks with
    | refused errno => rfl
    | @found first second related =>
        have kinds := tells _ _ related.2
        exact congrArg (fun kind => Except.ok (some kind)) kinds

theorem exists?_like : s'.exists? p = s.exists? p := by
  have told (s : Store) : s.exists? p =
      ((s.look? p).map (Option.map Node.isDirectory)).map Option.isSome := by
    unfold exists?
    rcases s.look? p with fault | _ | node <;> rfl
  rw [told, told, look?_like like tells inside]

theorem isFile?_like : s'.isFile? p = s.isFile? p := by
  have told (s : Store) : s.isFile? p =
      ((s.look? p).map (Option.map Node.isDirectory)).map (· == some false) := by
    unfold isFile?
    rcases s.look? p with fault | _ | _ | content <;> rfl
  rw [told, told, look?_like like tells inside]

theorem isDirectory?_like : s'.isDirectory? p = s.isDirectory? p := by
  have told (s : Store) : s.isDirectory? p =
      ((s.look? p).map (Option.map Node.isDirectory)).map (· == some true) := by
    unfold isDirectory?
    rcases s.look? p with fault | _ | _ | content <;> rfl
  rw [told, told, look?_like like tells inside]

theorem settleWith_like (errno : Errno) :
    LikeResult on view (makeDirectories.settleWith s p errno)
      (makeDirectories.settleWith s' p errno) := by
  unfold makeDirectories.settleWith
  rw [isDirectory?_like like tells inside]
  split <;> exact ⟨like, rfl⟩

theorem settle_like :
    LikeResult on view (makeDirectories.settle s p) (makeDirectories.settle s' p) := by
  have made := makeDirectory_like like tells inside
  unfold makeDirectories.settle
  generalize s.makeDirectory p = first, s'.makeDirectory p = second at made ⊢
  cases made with
  | found made => exact ⟨made, rfl⟩
  | refused errno =>
      cases errno with
      | noEntry => exact ⟨like, rfl⟩
      | _ => exact settleWith_like like tells inside _

end

theorem makeDirectories_like {ν : Type} {on : Key → Prop} {view : Node → ν} (fuel : Nat)
    {s s' : Store} (like : Like on view s s') (tells : Tells view) {p : Path}
    (inside : ∀ key ∈ p.trail, on key) :
    LikeResult on view (makeDirectories fuel s p) (makeDirectories fuel s' p) := by
  induction fuel generalizing s s' p with
  | zero => exact ⟨like, rfl⟩
  | succ fuel ih =>
      have made := makeDirectory_like like tells inside
      unfold makeDirectories
      split
      · exact ⟨like, rfl⟩
      · generalize s.makeDirectory p = first, s'.makeDirectory p = second at made ⊢
        cases made with
        | found made => exact ⟨made, rfl⟩
        | refused errno =>
            cases errno with
            | noEntry =>
                simp only
                split
                · exact ⟨like, rfl⟩
                · have above := ih like (p := p.parent)
                    fun key member => inside key (Path.trail_parent member)
                  rcases parents : makeDirectories fuel s p.parent with ⟨next, fault⟩
                  rcases parents' : makeDirectories fuel s' p.parent with ⟨next', fault'⟩
                  rw [parents, parents'] at above
                  obtain ⟨alike, rfl⟩ := above
                  cases fault' with
                  | none => exact settle_like alike tells inside
                  | some fault => exact ⟨alike, rfl⟩
            | _ => exact settleWith_like like tells inside _

theorem ensureDirectory_like {ν : Type} {on : Key → Prop} {view : Node → ν} {s s' : Store}
    (like : Like on view s s') (tells : Tells view) {p : Path} (inside : ∀ key ∈ p.trail, on key) :
    LikeResult on view (s.ensureDirectory p) (s'.ensureDirectory p) :=
  makeDirectories_like _ like tells inside

section

variable {on : Key → Prop} {s s' : Store} (agree : Agree on s s') {p : Path}
  (inside : ∀ key ∈ p.trail, on key)

include agree inside

theorem look_agree : s'.look p = s.look p := by
  have looks := look_like agree tells_id inside
  generalize s.look p = found, s'.look p = found' at looks ⊢
  cases looks with
  | found related => exact congrArg Except.ok (Prod.ext related.1 related.2)
  | refused errno => rfl

theorem look?_agree : s'.look? p = s.look? p := by
  unfold look?
  rw [look_agree agree inside]

theorem place_agree : s'.place p = s.place p := by
  have places := place_like agree tells_id inside
  generalize s.place p = found, s'.place p = found' at places ⊢
  cases places with
  | found related =>
      obtain ⟨same, alike⟩ := related
      rw [Option.map_id, id, id] at alike
      exact congrArg Except.ok (Prod.ext same alike)
  | refused errno => rfl

theorem openFile_agree : s'.openFile p = s.openFile p := by
  unfold openFile
  rw [place_agree agree inside]

/-- To both stores nothing is written, for the same reason, or the same to the goal. -/
theorem write_agree (content : List UInt8) :
    (∃ fault, s.write p content = .error fault ∧ s'.write p content = .error fault) ∨
      s.node? p.goal ≠ some .directory ∧
        s.write p content = .ok (s.put p.goal (.file content)) ∧
        s'.write p content = .ok (s'.put p.goal (.file content)) := by
  unfold write
  rw [openFile_agree agree inside]
  rcases opened : s.openFile p with fault | ⟨key, old⟩
  · exact .inl ⟨fault, rfl, rfl⟩
  · obtain ⟨rfl, noDirectory⟩ := openFile_goal opened
    exact .inr ⟨noDirectory, rfl, rfl⟩

theorem unlink_agree :
    (∃ fault, s.unlink p = .error fault ∧ s'.unlink p = .error fault) ∨
      s.unlink p = .ok (s, none) ∧ s'.unlink p = .ok (s', none) ∨
      (∃ content, s.node? p.goal = some (.file content)) ∧
        s.unlink p = .ok (s.remove p.goal, some p.goal) ∧
        s'.unlink p = .ok (s'.remove p.goal, some p.goal) := by
  unfold unlink
  rw [place_agree agree inside]
  split
  · exact .inl ⟨_, rfl, rfl⟩
  · split
    · next key content placed =>
      obtain ⟨rfl, found⟩ := place_goal placed
      exact .inr (.inr ⟨⟨content, found.symm⟩, rfl, rfl⟩)
    · exact .inl ⟨_, rfl, rfl⟩
    · exact .inr (.inl ⟨rfl, rfl⟩)
    · exact .inr (.inl ⟨rfl, rfl⟩)
    · exact .inl ⟨_, rfl, rfl⟩

theorem replace_agree {target : Path} (insideTarget : ∀ key ∈ target.trail, on key) :
    (∃ fault, s.replace p target = .error fault ∧ s'.replace p target = .error fault) ∨
      ∃ content, s.node? p.goal = some (.file content) ∧
        s.node? target.goal ≠ some .directory ∧
        s.replace p target =
          .ok ((s.remove p.goal).put target.goal (.file content), p.goal, target.goal) ∧
        s'.replace p target =
          .ok ((s'.remove p.goal).put target.goal (.file content), p.goal, target.goal) := by
  unfold replace
  rw [place_agree agree inside, place_agree agree insideTarget]
  dsimp only
  split
  · exact .inl ⟨_, rfl, rfl⟩
  · split
    · next key content placed =>
      obtain ⟨rfl, found⟩ := place_goal placed
      split
      · exact .inl ⟨_, rfl, rfl⟩
      · split
        · exact .inl ⟨_, rfl, rfl⟩
        · next other node notDirectory placedTarget =>
          obtain ⟨rfl, isNode⟩ := place_goal placedTarget
          refine .inr ⟨content, found.symm, ?_, rfl, rfl⟩
          intro directory
          exact notDirectory (isNode.trans directory)
        · exact .inl ⟨_, rfl, rfl⟩
    · exact .inl ⟨_, rfl, rfl⟩
    · exact .inl ⟨_, rfl, rfl⟩
    · exact .inl ⟨_, rfl, rfl⟩

end

/-- Whether a directory can be ensured does not depend on what the files hold. -/
theorem ensureDirectory_kinds {s s' : Store} (same : SameKinds s s') (p : Path) :
    (s'.ensureDirectory p).2 = (s.ensureDirectory p).2 :=
  (ensureDirectory_like same tells_isDirectory fun _ _ => trivial).2

theorem SameKinds.refl (s : Store) : SameKinds s s := Like.refl s

theorem SameKinds.trans {s next last : Store} (first : SameKinds s next)
    (second : SameKinds next last) : SameKinds s last := Like.trans first second

theorem sameKinds_append (s : Store) (key : Key) (content : List UInt8) :
    SameKinds s (s.append key content) := by
  unfold append
  split
  · next old found =>
    have below : ¬(key = [] ∨ key = here) := by
      intro top
      rw [node?_eq, if_pos top] at found
      cases found
    intro other _
    rw [node?_put _ _ _ _ below]
    by_cases same : other = key
    · rw [if_pos same, same, found]
      rfl
    · rw [if_neg same]
  · exact SameKinds.refl s

end Store

end HatReel.Files

namespace HatReel.Rig

open HatReel.Files HatReel.Log

theorem writeLine_kinds (w : World) (line : String) (sinks : List Sink) :
    Store.SameKinds w.files (w.writeLine line sinks).files := by
  induction sinks generalizing w with
  | nil => exact Store.SameKinds.refl _
  | cons sink rest ih =>
      cases sink with
      | events => exact ih w
      | console => exact ih _
      | file key =>
          cases key with
          | none => exact ih w
          | some key => exact (Store.sameKinds_append _ _ _).trans (ih _)

theorem log_kinds (level : Level) (logger message : String) :
    Act.Obeys (fun w _ w' => Store.SameKinds w.files w'.files) (log level logger message) := by
  intro w
  unfold log logAt
  dsimp only
  split
  · exact writeLine_kinds w _ _
  · exact Store.SameKinds.refl _

theorem log_alike (level : Level) (logger message : String) (w : World) :
    ∃ w' t, log level logger message w = ⟨.ok (), w', t⟩ ∧ Logs w t w' ∧
      Store.SameKinds w.files w'.files := by
  obtain ⟨w', t, step, logs⟩ := log_run level logger message w
  have kinds := log_kinds level logger message w
  rw [step] at kinds
  exact ⟨w', t, step, logs, kinds⟩

end HatReel.Rig
