import HatReel.Proofs.Files.Writing

/-! Which keys a path has to do with.

A path is followed along a trail of keys to its goal. What an operation on the path finds out, it
finds out on the trail, and what it changes lies there: a directory that is made was a free key of
the trail, and all other changes are made at the goal. Double dots are part of a trail like any
other name. -/

namespace HatReel.Files

namespace Store

def step (key : Key) (name : String) : Key := if name == ".." then key.dropLast else key ++ [name]

theorem enter_step {key next : Key} {name : String} (entered : enter key name = .ok next) :
    next = step key name := by
  unfold enter at entered
  unfold step
  split at entered
  · next double =>
    cases entered
    rw [if_pos double]
  · next plain =>
    rw [if_neg plain]
    split at entered <;> cases entered
    rfl

def passed (key : Key) : List String → List Key
  | [] => [key]
  | name :: rest => key :: passed (step key name) rest

theorem start_mem_passed (key : Key) (names : List String) : key ∈ passed key names := by
  cases names <;> exact List.mem_cons_self

theorem end_mem_passed (key : Key) (names : List String) :
    names.foldl step key ∈ passed key names := by
  induction names generalizing key with
  | nil => exact List.mem_cons_self
  | cons name rest ih => exact List.mem_cons_of_mem key (ih (step key name))

theorem passed_concat (key : Key) (names : List String) (name : String) :
    passed key (names ++ [name]) = passed key names ++ [step (names.foldl step key) name] := by
  induction names generalizing key with
  | nil => rfl
  | cons first rest ih =>
      change key :: passed (step key first) (rest ++ [name]) = _
      rw [ih]
      rfl

theorem follow_end {s : Store} {key last : Key} {names : List String} {node : Node}
    (followed : s.follow key names = .ok (last, node)) : last = names.foldl step key := by
  induction names generalizing key with
  | nil => exact (follow_nil_ok followed).1
  | cons name rest ih =>
      obtain ⟨_, next, entered, further⟩ := follow_cons_ok followed
      rw [ih further, enter_step entered]
      rfl

theorem follow_concat_ok {s : Store} {key last : Key} {names : List String} {name : String}
    {node : Node} (followed : s.follow key (names ++ [name]) = .ok (last, node)) :
    ∃ above, s.follow key names = .ok (above, .directory) ∧ enter above name = .ok last ∧
      s.node? last = some node := by
  induction names generalizing key with
  | nil =>
      obtain ⟨found, next, entered, further⟩ := follow_cons_ok followed
      obtain ⟨rfl, there⟩ := follow_nil_ok further
      refine ⟨key, ?_, entered, there⟩
      rw [follow, found]
  | cons first rest ih =>
      obtain ⟨found, next, entered, further⟩ := follow_cons_ok followed
      obtain ⟨above, followedRest, rest_entered, there⟩ := ih further
      refine ⟨above, ?_, rest_entered, there⟩
      rw [follow_cons rest found entered]
      exact followedRest

end Store

namespace Path

/-- Where a path leads if it leads anywhere. -/
def goal (p : Path) : Key := p.names.foldl Store.step (Store.start p)

def trail (p : Path) : List Key := Store.passed (Store.start p) p.names

theorem goal_mem_trail (p : Path) : p.goal ∈ p.trail := Store.end_mem_passed _ _

theorem goal_child (p : Path) (name : String) : (p.child name).goal = Store.step p.goal name := by
  unfold goal child
  rw [List.foldl_append]
  rfl

theorem trail_child (p : Path) (name : String) :
    (p.child name).trail = p.trail ++ [(p.child name).goal] := by
  rw [goal_child]
  exact Store.passed_concat _ _ _

theorem trail_parent {p : Path} {key : Key} (above : key ∈ p.parent.trail) : key ∈ p.trail := by
  rcases List.eq_nil_or_concat p.names with none | ⟨names, name, split⟩
  · have same : p.parent = p := by
      unfold parent
      rw [none, List.dropLast_nil, ← none]
    rwa [same] at above
  · have isChild : p = p.parent.child name := by
      rcases p with ⟨anchor, _⟩
      cases split
      simp [parent, child]
    rw [isChild, trail_child]
    exact List.mem_append_left _ above

end Path

namespace Store

section

variable {s s' : Store} {p : Path}

theorem look_goal {key : Key} {node : Node} (looked : s.look p = .ok (key, node)) : key = p.goal :=
  follow_end (look_ok looked)

theorem place_of_look {key : Key} {node : Node} (looked : s.look p = .ok (key, node)) :
    s.place p = .ok (key, some node) := by
  have there : ((s.look p).map fun found => (found.1, some found.2)) = .ok (key, some node) := by
    rw [looked]
    rfl
  unfold place
  cases named : p.name? with
  | none => exact there
  | some name =>
      obtain ⟨names, split⟩ := List.getLast?_eq_some_iff.mp named
      simp only
      split
      · exact there
      · have followed := look_ok looked
        rw [split] at followed
        obtain ⟨above, followedAbove, entered, found⟩ := follow_concat_ok followed
        unfold look at looked
        split at looked
        · cases looked
        · next fits =>
          rw [if_neg fits, split, List.dropLast_concat, followedAbove]
          change (enter above name >>= fun key => pure (key, s.node? key)) = _
          rw [entered, ← found]
          rfl

theorem place_goal {key : Key} {node : Option Node} (placed : s.place p = .ok (key, node)) :
    key = p.goal ∧ node = s.node? key := by
  refine ⟨?_, place_node placed⟩
  rcases place_cases placed with ⟨n, looked, -⟩ |
    ⟨names, name, above, split, double, _, _, followed, isKey, -⟩
  · exact look_goal looked
  · rw [isKey, follow_end followed, Path.goal, split, List.foldl_append, List.foldl_cons,
      List.foldl_nil, step, if_neg (by simpa using double)]

theorem openFile_goal {key : Key} {old : List UInt8} (opened : s.openFile p = .ok (key, old)) :
    key = p.goal ∧ s.node? key ≠ some .directory := by
  obtain ⟨_, node, placed, noDirectory⟩ := openFile_place opened
  obtain ⟨isGoal, rfl⟩ := place_goal placed
  exact ⟨isGoal, noDirectory⟩

/-- Writing puts a file at the goal, where no directory is. -/
theorem write_goal {content : List UInt8} (written : s.write p content = .ok s') :
    s.node? p.goal ≠ some .directory ∧ s' = s.put p.goal (.file content) := by
  unfold write at written
  rcases opened : s.openFile p with fault | ⟨key, old⟩
  · rw [opened] at written
    cases written
  · rw [opened] at written
    cases written
    obtain ⟨rfl, noDirectory⟩ := openFile_goal opened
    exact ⟨noDirectory, rfl⟩

theorem unlink_goal {key? : Option Key} (removed : s.unlink p = .ok (s', key?)) :
    key? = none ∧ s' = s ∨
      key? = some p.goal ∧ s' = s.remove p.goal ∧
        ∃ content, s.node? p.goal = some (.file content) := by
  unfold unlink at removed
  split at removed
  · cases removed
  · split at removed
    · next key content placed =>
      cases removed
      obtain ⟨rfl, found⟩ := place_goal placed
      exact .inr ⟨rfl, rfl, content, found.symm⟩
    · cases removed
    · cases removed
      exact .inl ⟨rfl, rfl⟩
    · cases removed
      exact .inl ⟨rfl, rfl⟩
    · cases removed

theorem replace_place {target : Path} {old new : Key}
    (replaced : s.replace p target = .ok (s', old, new)) :
    target.hasNull = false ∧ ∃ content node, s.place p = .ok (old, some (.file content)) ∧
      s.place target = .ok (new, node) ∧ node ≠ some .directory ∧
      s' = (s.remove old).put new (.file content) := by
  unfold replace at replaced
  dsimp only at replaced
  split at replaced
  · cases replaced
  · next noNull =>
    have noNull : p.hasNull = false ∧ target.hasNull = false := by simpa using noNull
    split at replaced
    · next key content placed =>
      split at replaced
      · cases replaced
      · split at replaced
        · cases replaced
        · next other node notDirectory placedTarget =>
          cases replaced
          refine ⟨noNull.2, content, node, placed, placedTarget, ?_, rfl⟩
          rintro rfl
          exact notDirectory rfl
        · cases replaced
    · cases replaced
    · cases replaced
    · cases replaced

theorem replace_goal {target : Path} {old new : Key}
    (replaced : s.replace p target = .ok (s', old, new)) :
    ∃ content, s.node? p.goal = some (.file content) ∧
      s.node? target.goal ≠ some .directory ∧ old = p.goal ∧ new = target.goal ∧
      s' = (s.remove p.goal).put target.goal (.file content) := by
  obtain ⟨-, content, node, placed, placedTarget, noDirectory, rfl⟩ := replace_place replaced
  obtain ⟨rfl, found⟩ := place_goal placed
  obtain ⟨rfl, rfl⟩ := place_goal placedTarget
  exact ⟨content, found.symm, noDirectory, rfl, rfl, rfl⟩

theorem replace_keeps {target : Path} {old new : Key}
    (replaced : s.replace p target = .ok (s', old, new)) : Keeps s s' := by
  obtain ⟨content, found, noDirectory, -, -, rfl⟩ := replace_goal replaced
  have isFile : s.node? p.goal ≠ some .directory := by rw [found]; exact nofun
  have below := below_of_file isFile
  refine (keeps_remove below isFile).trans (keeps_put (below_of_file noDirectory) ?_)
  rw [node?_remove _ _ _ below]
  split
  · exact nofun
  · exact noDirectory

/-- Afterwards the path of the new name leads to the file. -/
theorem replace_look {target : Path} {old new : Key}
    (replaced : s.replace p target = .ok (s', old, new)) :
    target.hasNull = false ∧ ∃ content, s'.look target = .ok (new, .file content) := by
  have keeps := replace_keeps replaced
  obtain ⟨noNull, content, node, -, placed, noDirectory, rfl⟩ := replace_place replaced
  rw [place_node placed] at noDirectory
  refine ⟨noNull, content, look_of_place keeps placed ?_⟩
  rw [node?_put _ _ _ _ (below_of_file noDirectory), if_pos rfl]

end

/-- Of the given keys, free ones may have become directories; nothing else has changed. -/
def Makes (keys : List Key) (s s' : Store) : Prop :=
  ∀ key, s'.node? key = s.node? key ∨
    key ∈ keys ∧ s.node? key = none ∧ s'.node? key = some .directory

namespace Makes

variable {keys more : List Key} {s next last : Store}

theorem refl (keys : List Key) (s : Store) : Makes keys s s := fun _ => .inl rfl

theorem trans (first : Makes keys s next) (second : Makes keys next last) : Makes keys s last := by
  intro key
  rcases second key with same | ⟨inside, free, made⟩
  · rw [same]
    exact first key
  · rcases first key with same | ⟨-, -, taken⟩
    · exact .inr ⟨inside, same ▸ free, made⟩
    · rw [taken] at free
      cases free

theorem mono (makes : Makes keys s next) (wider : ∀ key ∈ keys, key ∈ more) :
    Makes more s next := by
  intro key
  rcases makes key with same | ⟨inside, free, made⟩
  · exact .inl same
  · exact .inr ⟨wider key inside, free, made⟩

theorem outside (makes : Makes keys s next) {key : Key} (apart : key ∉ keys) :
    next.node? key = s.node? key := by
  rcases makes key with same | ⟨inside, -, -⟩
  · exact same
  · exact absurd inside apart

theorem kept (makes : Makes keys s next) {key : Key} {node : Node}
    (found : s.node? key = some node) : next.node? key = some node := by
  rcases makes key with same | ⟨-, free, -⟩
  · rw [same, found]
  · rw [free] at found
    cases found

theorem keeps (makes : Makes keys s next) : Keeps s next := fun _ found => makes.kept found

end Makes

/-- A directory that can be made is put at the goal, which was free. -/
theorem makeDirectory_goal {s s' : Store} {p : Path} (made : s.makeDirectory p = .ok s') :
    s.place p = .ok (p.goal, none) ∧ s.node? p.goal = none ∧ s' = s.put p.goal .directory := by
  unfold makeDirectory at made
  rcases placed : s.place p with errno | ⟨key, _ | node⟩ <;> rw [placed] at made <;> cases made
  obtain ⟨rfl, free⟩ := place_goal placed
  exact ⟨rfl, free.symm, rfl⟩

theorem makeDirectory_makes {s s' : Store} {p : Path} (made : s.makeDirectory p = .ok s') :
    Makes p.trail s s' := by
  obtain ⟨-, free, rfl⟩ := makeDirectory_goal made
  intro key
  rw [node?_put _ _ _ _ (below_of_free free)]
  by_cases same : key = p.goal
  · rw [if_pos same, same]
    exact .inr ⟨p.goal_mem_trail, free, rfl⟩
  · rw [if_neg same]
    exact .inl rfl

theorem settle_makes (s : Store) (p : Path) : Makes p.trail s (makeDirectories.settle s p).1 := by
  unfold makeDirectories.settle
  cases made : s.makeDirectory p with
  | ok next => exact makeDirectory_makes made
  | error errno =>
      cases errno with
      | noEntry => exact Makes.refl _ s
      | _ =>
          simp only
          rw [settleWith_same]
          exact Makes.refl _ s

theorem makeDirectories_makes (fuel : Nat) (s : Store) (p : Path) :
    Makes p.trail s (makeDirectories fuel s p).1 := by
  induction fuel generalizing s p with
  | zero => exact Makes.refl _ s
  | succ fuel ih =>
      unfold makeDirectories
      split
      · exact Makes.refl _ s
      · cases made : s.makeDirectory p with
        | ok next => exact makeDirectory_makes made
        | error errno =>
            cases errno with
            | noEntry =>
                simp only
                split
                · exact Makes.refl _ s
                · have above := (ih s p.parent).mono fun _ inside => Path.trail_parent inside
                  rcases parents : makeDirectories fuel s p.parent with ⟨next, _ | fault⟩
                  · rw [parents] at above
                    exact above.trans (settle_makes next p)
                  · rw [parents] at above
                    exact above
            | _ =>
                simp only
                rw [settleWith_same]
                exact Makes.refl _ s

theorem ensureDirectory_makes (s : Store) (p : Path) : Makes p.trail s (s.ensureDirectory p).1 :=
  makeDirectories_makes _ s p

/-- A path whose place is free leads to what is put there. -/
theorem look_put_free {s : Store} {p : Path} {key : Key} (placed : s.place p = .ok (key, none))
    (node : Node) : (s.put key node).look p = .ok (key, node) := by
  have free : s.node? key = none := (place_node placed).symm
  have below := below_of_free free
  refine look_of_place (keeps_put below (by rw [free]; exact nofun)) placed ?_
  rw [node?_put _ _ _ _ below, if_pos rfl]

theorem isDirectory?_of_look {s : Store} {p : Path} {key : Key} (noNull : p.hasNull = false)
    (looked : s.look p = .ok (key, .directory)) : s.isDirectory? p = .ok true := by
  unfold isDirectory? look?
  rw [noNull, if_neg Bool.false_ne_true, looked]
  rfl

theorem look_of_isDirectory? {s : Store} {p : Path} (found : s.isDirectory? p = .ok true) :
    p.hasNull = false ∧ s.look p = .ok (p.goal, .directory) := by
  unfold isDirectory? at found
  rcases looked : s.look? p with fault | _ | _ | content <;> rw [looked] at found <;> cases found
  obtain ⟨noNull, key, leads⟩ := look?_some looked
  exact ⟨noNull, look_goal leads ▸ leads⟩

theorem makeDirectory_isDirectory? {s s' : Store} {p : Path} (noNull : p.hasNull = false)
    (made : s.makeDirectory p = .ok s') : s'.isDirectory? p = .ok true := by
  obtain ⟨placed, -, rfl⟩ := makeDirectory_goal made
  exact isDirectory?_of_look noNull (look_put_free placed .directory)

theorem settleWith_isDirectory? {s s' : Store} {p : Path} {errno : Errno}
    (settled : makeDirectories.settleWith s p errno = (s', none)) :
    s'.isDirectory? p = .ok true := by
  unfold makeDirectories.settleWith at settled
  split at settled <;> cases settled
  assumption

theorem settle_isDirectory? {s s' : Store} {p : Path} (noNull : p.hasNull = false)
    (settled : makeDirectories.settle s p = (s', none)) : s'.isDirectory? p = .ok true := by
  unfold makeDirectories.settle at settled
  cases made : s.makeDirectory p with
  | ok next =>
      rw [made] at settled
      cases settled
      exact makeDirectory_isDirectory? noNull made
  | error errno =>
      rw [made] at settled
      cases errno with
      | noEntry => cases settled
      | _ => exact settleWith_isDirectory? settled

theorem ensureDirectory_isDirectory? {s s' : Store} {p : Path}
    (ensured : s.ensureDirectory p = (s', none)) : s'.isDirectory? p = .ok true := by
  unfold ensureDirectory makeDirectories at ensured
  cases noNull : p.hasNull with
  | true =>
      rw [noNull] at ensured
      cases ensured
  | false =>
      rw [noNull, if_neg Bool.false_ne_true] at ensured
      cases made : s.makeDirectory p with
      | ok next =>
          rw [made] at ensured
          cases ensured
          exact makeDirectory_isDirectory? noNull made
      | error errno =>
          rw [made] at ensured
          cases errno with
          | noEntry =>
              simp only at ensured
              split at ensured
              · cases ensured
              · rcases parents : makeDirectories p.names.length s p.parent with ⟨next, _ | fault⟩
                · rw [parents] at ensured
                  exact settle_isDirectory? noNull ensured
                · rw [parents] at ensured
                  cases ensured
          | _ => exact settleWith_isDirectory? ensured

theorem ensureDirectory_there {s : Store} {p : Path} (there : s.isDirectory? p = .ok true) :
    s.ensureDirectory p = (s, none) := by
  obtain ⟨noNull, looked⟩ := look_of_isDirectory? there
  have taken : s.makeDirectory p = .error .exists := by
    unfold makeDirectory
    rw [place_of_look looked]
    rfl
  unfold ensureDirectory makeDirectories
  rw [noNull, if_neg Bool.false_ne_true, taken]
  simp only [makeDirectories.settleWith, there]

end Store

end HatReel.Files
