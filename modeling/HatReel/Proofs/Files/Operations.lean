import HatReel.Proofs.Files.Following

/-! What the operations on a store do to a file in a directory that is there, and what making a
directory does to everything else. -/

namespace HatReel.Files

def Path.key (p : Path) : Key := Store.start p ++ p.names

structure Legal (directory : Path) (name : String) : Prop where
  filled : name ≠ ""
  notDouble : name ≠ ".."
  noNull : name.toList.contains '\x00' = false
  short : Store.isTooLong name = false
  fits : (directory.child name).text.utf8ByteSize ≤ 4095

theorem key_child (directory : Path) (name : String) :
    (directory.child name).key = directory.key ++ [name] := by
  unfold Path.key Path.child Store.start
  rw [← List.append_assoc]

theorem Legal.below {directory : Path} {name : String} (legal : Legal directory name) :
    ¬((directory.child name).key = [] ∨ (directory.child name).key = here) := by
  rw [key_child]
  rintro (top | working)
  · exact List.append_ne_nil_of_right_ne_nil _ (List.cons_ne_nil _ _) top
  · have last := congrArg List.getLast? working
    rw [List.getLast?_append, here] at last
    exact legal.filled (Option.some.inj last)

theorem Legal.noNull_child {directory : Path} {name : String} (legal : Legal directory name)
    (noNull : directory.hasNull = false) : (directory.child name).hasNull = false := by
  unfold Path.hasNull Path.child at *
  rw [List.any_append, noNull, List.any_cons, legal.noNull]
  rfl

namespace Store

structure Holds (s : Store) (p : Path) : Prop where
  noNull : p.hasNull = false
  followed : s.follow (start p) p.names = .ok (p.key, .directory)

theorem Holds.keeps {s s' : Store} {p : Path} (holds : s.Holds p) (keeps : Keeps s s') :
    s'.Holds p := ⟨holds.noNull, follow_keeps keeps holds.followed⟩

theorem Keeps.trans {s next last : Store} (first : Keeps s next) (second : Keeps next last) :
    Keeps s last := fun key found => second key (first key found)

section

variable {s : Store} {directory : Path} {name : String}

theorem keeps_put {key : Key} {node : Node} (below : ¬(key = [] ∨ key = here))
    (noDirectory : s.node? key ≠ some .directory) : Keeps s (s.put key node) := by
  intro other found
  have different : other ≠ key := fun same => noDirectory (same ▸ found)
  rw [node?_put s key other node below, if_neg different]
  exact found

theorem keeps_remove {key : Key} (below : ¬(key = [] ∨ key = here))
    (noDirectory : s.node? key ≠ some .directory) : Keeps s (s.remove key) := by
  intro other found
  have different : other ≠ key := fun same => noDirectory (same ▸ found)
  rw [node?_remove s key other below, if_neg different]
  exact found

variable (holds : s.Holds directory) (legal : Legal directory name)

include holds legal

theorem place_child : s.place (directory.child name) =
    .ok ((directory.child name).key, s.node? (directory.child name).key) := by
  unfold place
  rw [Path.name?_child]
  simp only
  rw [if_neg (by simpa using legal.notDouble), if_neg (Nat.not_lt.mpr legal.fits)]
  have parent : (directory.child name).names.dropLast = directory.names := by
    simp [Path.child]
  have above := holds.followed
  have start_eq : start (directory.child name) = start directory := rfl
  rw [parent, start_eq, above, key_child]
  have entered : enter directory.key name = .ok (directory.key ++ [name]) := by
    unfold enter
    rw [if_neg (by simpa using legal.notDouble), legal.short]
    rfl
  change (enter directory.key name >>= fun key => pure (key, s.node? key)) = _
  rw [entered]
  rfl

theorem look_child : s.look (directory.child name) =
    match s.node? (directory.child name).key with
    | some node => .ok ((directory.child name).key, node)
    | none => .error .noEntry := by
  unfold look
  rw [if_neg (Nat.not_lt.mpr legal.fits), key_child]
  exact follow_child legal.notDouble legal.short holds.followed

theorem exists?_child {node : Node} (found : s.node? (directory.child name).key = some node) :
    s.exists? (directory.child name) = .ok true := by
  unfold exists? look?
  rw [legal.noNull_child holds.noNull, if_neg Bool.false_ne_true, look_child holds legal, found]
  rfl

theorem read_child {content : List UInt8}
    (found : s.node? (directory.child name).key = some (.file content)) :
    s.read (directory.child name) = .ok content := by
  unfold read
  rw [legal.noNull_child holds.noNull, if_neg Bool.false_ne_true, look_child holds legal, found]

theorem write_child (content : List UInt8)
    (noDirectory : s.node? (directory.child name).key ≠ some .directory) :
    s.write (directory.child name) content =
      .ok (s.put (directory.child name).key (.file content)) := by
  unfold write openFile
  rw [legal.noNull_child holds.noNull, if_neg Bool.false_ne_true, place_child holds legal]
  cases found : s.node? (directory.child name).key with
  | none => rfl
  | some node =>
      cases node with
      | directory => exact absurd found noDirectory
      | file old => rfl

/-- Removing a file leaves nothing under its key, whether or not there was one. -/
theorem unlink_child (noDirectory : s.node? (directory.child name).key ≠ some .directory) :
    ∃ key?, s.unlink (directory.child name) =
        .ok (if key?.isSome then s.remove (directory.child name).key else s, key?) ∧
      ((key? = some (directory.child name).key ∨
        key? = none ∧ s.node? (directory.child name).key = none)) := by
  unfold unlink
  rw [legal.noNull_child holds.noNull, if_neg Bool.false_ne_true, place_child holds legal]
  cases found : s.node? (directory.child name).key with
  | none => exact ⟨none, rfl, Or.inr ⟨rfl, rfl⟩⟩
  | some node =>
      cases node with
      | directory => exact absurd found noDirectory
      | file old => exact ⟨some _, rfl, Or.inl rfl⟩

theorem replace_child {target : String} {content : List UInt8}
    (legalTarget : Legal directory target)
    (found : s.node? (directory.child name).key = some (.file content))
    (noDirectory : s.node? (directory.child target).key ≠ some .directory) :
    s.replace (directory.child name) (directory.child target) =
      .ok ((s.remove (directory.child name).key).put (directory.child target).key (.file content),
        (directory.child name).key, (directory.child target).key) := by
  unfold replace
  rw [legal.noNull_child holds.noNull, legalTarget.noNull_child holds.noNull,
    place_child holds legal, place_child holds legalTarget, found, Path.name?_child]
  have named : (some target == none || some target == some "..") = false := by
    simpa using legalTarget.notDouble
  -- the target is no directory, so that of its two cases the second applies
  simp only [Bool.or_self, Bool.false_eq_true, if_false, named]

end

/-- Nothing that is there changes, and what is new has at most so many names. -/
structure Grows (s s' : Store) (limit : Nat) : Prop where
  kept : ∀ key node, s.node? key = some node → s'.node? key = some node
  bounded : ∀ key, limit < key.length → s'.node? key = s.node? key

theorem Grows.refl (s : Store) (limit : Nat) : Grows s s limit :=
  ⟨fun _ _ found => found, fun _ _ => rfl⟩

theorem Grows.trans {s next last : Store} {limit : Nat} (first : Grows s next limit)
    (second : Grows next last limit) : Grows s last limit where
  kept := fun key node found => second.kept key node (first.kept key node found)
  bounded := fun key long => (second.bounded key long).trans (first.bounded key long)

theorem Grows.mono {s s' : Store} {limit more : Nat} (grows : Grows s s' limit)
    (wider : limit ≤ more) : Grows s s' more where
  kept := grows.kept
  bounded := fun key long => grows.bounded key (Nat.lt_of_le_of_lt wider long)

theorem below_of_free {s : Store} {key : Key} (free : s.node? key = none) :
    ¬(key = [] ∨ key = here) := by
  intro top
  rw [node?_eq, if_pos top] at free
  cases free

theorem below_of_file {s : Store} {key : Key} (noDirectory : s.node? key ≠ some .directory) :
    ¬(key = [] ∨ key = here) := by
  intro top
  rw [node?_eq, if_pos top] at noDirectory
  exact noDirectory rfl

/-- A place is what the path leads to, or a name in a directory that the path leads to without
it. -/
theorem place_cases {s : Store} {p : Path} {key : Key} {node : Option Node}
    (placed : s.place p = .ok (key, node)) :
    (∃ n, s.look p = .ok (key, n) ∧ node = some n) ∨
      ∃ names name above, p.names = names ++ [name] ∧ name ≠ ".." ∧ isTooLong name = false ∧
        ¬4095 < p.text.utf8ByteSize ∧ s.follow (start p) names = .ok (above, .directory) ∧
        key = above ++ [name] ∧ node = s.node? key := by
  have whole {f : Key × Node → Key × Option Node} (isPair : ∀ e, f e = (e.1, some e.2))
      (placed : (s.look p).map f = .ok (key, node)) :
      ∃ n, s.look p = .ok (key, n) ∧ node = some n := by
    rcases looked : s.look p with errno | ⟨other, n⟩
    · rw [looked] at placed
      cases placed
    · rw [looked] at placed
      injection placed with same
      rw [isPair] at same
      cases same
      exact ⟨n, rfl, rfl⟩
  unfold place at placed
  cases named : p.name? with
  | none =>
      rw [named] at placed
      exact .inl (whole (fun _ => rfl) placed)
  | some name =>
      rw [named] at placed
      simp only at placed
      by_cases double : name = ".."
      · rw [if_pos (by simpa using double)] at placed
        exact .inl (whole (fun _ => rfl) placed)
      · obtain ⟨names, split⟩ := List.getLast?_eq_some_iff.mp named
        rw [if_neg (by simpa using double), split, List.dropLast_concat] at placed
        split at placed
        · cases placed
        · next fits =>
          rcases followed : s.follow (start p) names with errno | ⟨above, _ | content⟩ <;>
            rw [followed] at placed
          · cases placed
          · change (enter above name >>= fun key => pure (key, s.node? key)) = _ at placed
            cases entered : enter above name with
            | error errno =>
                rw [entered] at placed
                cases placed
            | ok next =>
                rw [entered] at placed
                cases placed
                obtain ⟨isKey, short⟩ := enter_ok double entered
                exact .inr ⟨names, name, above, split, double, short, fits, followed, isKey, rfl⟩
          · cases placed

theorem place_free {s : Store} {p : Path} {key : Key} (plain : ".." ∉ p.names)
    (placed : s.place p = .ok (key, none)) :
    ∃ names name, p.names = names ++ [name] ∧ name ≠ ".." ∧ isTooLong name = false ∧
      s.follow (start p) names = .ok (start p ++ names, .directory) ∧
      key = p.key ∧ s.node? key = none := by
  rcases place_cases placed with ⟨n, _, never⟩ |
    ⟨names, name, above, split, double, short, _, followed, isKey, free⟩
  · cases never
  · have plainInit : ".." ∉ names := by
      intro member
      rw [split] at plain
      exact plain (List.mem_append_left _ member)
    have aboveKey := follow_key plainInit followed
    rw [aboveKey] at followed
    refine ⟨names, name, split, double, short, followed, ?_, free.symm⟩
    rw [isKey, aboveKey, Path.key, split, List.append_assoc]

theorem makeDirectory_ok {s s' : Store} {p : Path} (plain : ".." ∉ p.names)
    (made : s.makeDirectory p = .ok s') :
    Grows s s' p.key.length ∧ s'.follow (start p) p.names = .ok (p.key, .directory) := by
  unfold makeDirectory at made
  rcases placed : s.place p with _ | ⟨key, _ | node⟩
  · rw [placed] at made
    cases made
  · rw [placed] at made
    cases made
    obtain ⟨names, name, split, notDouble, short, above, rfl, free⟩ := place_free plain placed
    have below := below_of_free free
    have keeps : Keeps s (s.put p.key .directory) :=
      keeps_put below (by rw [free]; exact Option.some_ne_none _ |>.symm)
    refine ⟨⟨?_, ?_⟩, ?_⟩
    · intro key node found
      have different : key ≠ p.key := by
        intro same
        rw [same, free] at found
        cases found
      rw [node?_put _ _ _ _ below, if_neg different]
      exact found
    · intro key long
      have different : key ≠ p.key := by
        intro same
        rw [same] at long
        exact Nat.lt_irrefl _ long
      rw [node?_put _ _ _ _ below, if_neg different]
    · have key_eq : p.key = start p ++ names ++ [name] := by
        rw [Path.key, split, List.append_assoc]
      rw [split, follow_child notDouble short (follow_keeps keeps above), ← key_eq,
        node?_put _ _ _ _ below, if_pos rfl]
  · rw [placed] at made
    cases made

theorem look_ok {s : Store} {p : Path} {key : Key} {node : Node}
    (looked : s.look p = .ok (key, node)) : s.follow (start p) p.names = .ok (key, node) := by
  unfold look at looked
  split at looked
  · cases looked
  · exact looked

theorem look?_some {s : Store} {p : Path} {node : Node} (found : s.look? p = .ok (some node)) :
    p.hasNull = false ∧ ∃ key, s.look p = .ok (key, node) := by
  unfold look? at found
  cases noNull : p.hasNull with
  | true =>
      rw [noNull] at found
      cases found
  | false =>
      rw [noNull, if_neg Bool.false_ne_true] at found
      rcases looked : s.look p with errno | ⟨key, other⟩
      · rw [looked] at found
        simp only at found
        split at found <;> cases found
      · rw [looked] at found
        cases found
        exact ⟨rfl, key, rfl⟩

theorem isDirectory?_true {s : Store} {p : Path} (plain : ".." ∉ p.names)
    (found : s.isDirectory? p = .ok true) : s.Holds p := by
  unfold isDirectory? at found
  rcases looked : s.look? p with fault | _ | _ | content
  · rw [looked] at found
    cases found
  · rw [looked] at found
    cases found
  · obtain ⟨noNull, key, leads⟩ := look?_some looked
    have followed := look_ok leads
    refine ⟨noNull, ?_⟩
    rw [followed, follow_key plain followed]
    rfl
  · rw [looked] at found
    cases found

theorem settleWith_same (s : Store) (p : Path) (errno : Errno) :
    (makeDirectories.settleWith s p errno).1 = s := by
  unfold makeDirectories.settleWith
  split <;> rfl

theorem settle_grows {s : Store} {p : Path} (plain : ".." ∉ p.names) :
    Grows s (makeDirectories.settle s p).1 p.key.length := by
  unfold makeDirectories.settle
  cases made : s.makeDirectory p with
  | ok next => exact (makeDirectory_ok plain made).1
  | error errno =>
      cases errno with
      | noEntry => exact Grows.refl s _
      | _ =>
          simp only
          rw [settleWith_same]
          exact Grows.refl s _

theorem makeDirectories_grows (fuel : Nat) {s : Store} {p : Path} (plain : ".." ∉ p.names) :
    Grows s (makeDirectories fuel s p).1 p.key.length := by
  induction fuel generalizing s p with
  | zero => exact Grows.refl s _
  | succ fuel ih =>
      have plainParent : ".." ∉ p.parent.names := fun member =>
        plain (List.dropLast_subset _ member)
      have shorter : p.parent.key.length ≤ p.key.length := by
        have fewer : p.parent.names.length ≤ p.names.length := by simp [Path.parent]
        simp only [Path.key, List.length_append]
        exact Nat.add_le_add_left fewer _
      unfold makeDirectories
      split
      · exact Grows.refl s _
      · cases made : s.makeDirectory p with
        | ok next => exact (makeDirectory_ok plain made).1
        | error errno =>
            cases errno with
            | noEntry =>
                simp only
                split
                · exact Grows.refl s _
                · have above := (ih plainParent (s := s)).mono shorter
                  rcases parents : makeDirectories fuel s p.parent with ⟨next, _ | fault⟩
                  · rw [parents] at above
                    exact above.trans (settle_grows plain)
                  · rw [parents] at above
                    exact above
            | _ =>
                simp only
                rw [settleWith_same]
                exact Grows.refl s _

theorem settleWith_holds {s s' : Store} {p : Path} {errno : Errno} (plain : ".." ∉ p.names)
    (made : makeDirectories.settleWith s p errno = (s', none)) : s'.Holds p := by
  unfold makeDirectories.settleWith at made
  rcases found : s.isDirectory? p with fault | _ | _
  · rw [found] at made
    cases made
  · rw [found] at made
    cases made
  · rw [found] at made
    cases made
    exact isDirectory?_true plain found

theorem settle_holds {s s' : Store} {p : Path} (plain : ".." ∉ p.names)
    (noNull : p.hasNull = false) (made : makeDirectories.settle s p = (s', none)) :
    s'.Holds p := by
  unfold makeDirectories.settle at made
  cases again : s.makeDirectory p with
  | ok next =>
      rw [again] at made
      cases made
      exact ⟨noNull, (makeDirectory_ok plain again).2⟩
  | error errno =>
      rw [again] at made
      cases errno with
      | noEntry => cases made
      | _ => exact settleWith_holds plain made

theorem ensureDirectory_holds {s s' : Store} {p : Path} (plain : ".." ∉ p.names)
    (made : s.ensureDirectory p = (s', none)) : s'.Holds p := by
  unfold ensureDirectory makeDirectories at made
  cases noNull : p.hasNull with
  | true =>
      rw [noNull] at made
      cases made
  | false =>
      rw [noNull, if_neg Bool.false_ne_true] at made
      cases first : s.makeDirectory p with
      | ok next =>
          rw [first] at made
          cases made
          exact ⟨noNull, (makeDirectory_ok plain first).2⟩
      | error errno =>
          rw [first] at made
          cases errno with
          | noEntry =>
              simp only at made
              split at made
              · cases made
              · rcases parents : makeDirectories p.names.length s p.parent with ⟨next, _ | fault⟩
                · rw [parents] at made
                  exact settle_holds plain noNull made
                · rw [parents] at made
                  cases made
          | _ => exact settleWith_holds plain made

end Store

end HatReel.Files
