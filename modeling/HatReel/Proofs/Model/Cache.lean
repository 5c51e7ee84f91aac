import HatReel.Model.Cache
import HatReel.Proofs.Files.Operations
import HatReel.Proofs.Rig.Events

/-! The cache never holds a part of a model.

A model gets its name in the cache by being renamed, and only a body that was received to its end
is. The invariant of any number of calls says what stands under the name: nothing as long as no call
has received a whole body, and from then on the first one received. -/

namespace HatReel.Model

open HatReel.Decimal HatReel.Files HatReel.Files.Store HatReel.Log HatReel.Rig

/-- Only files that are logged to have changed, and these are still files. -/
structure Written (sinks : List Sink) (s s' : Store) : Prop where
  keeps : Keeps s s'
  others : ∀ key, .file (some key) ∉ sinks → s'.node? key = s.node? key

theorem Written.refl (sinks : List Sink) (s : Store) : Written sinks s s :=
  ⟨fun _ found => found, fun _ _ => rfl⟩

theorem Written.trans {sinks : List Sink} {s next last : Store} (first : Written sinks s next)
    (second : Written sinks next last) : Written sinks s last where
  keeps := first.keeps.trans second.keeps
  others := fun key unlogged => (second.others key unlogged).trans (first.others key unlogged)

theorem written_append {sinks : List Sink} {key : Key} (logged : .file (some key) ∈ sinks)
    (s : Store) (content : List UInt8) : Written sinks s (s.append key content) := by
  unfold append
  cases found : s.node? key with
  | none => exact Written.refl sinks s
  | some node =>
      cases node with
      | directory => exact Written.refl sinks s
      | file old =>
          have below : ¬(key = [] ∨ key = here) := by
            intro top
            rw [node?_eq, if_pos top] at found
            cases found
          refine ⟨keeps_put below (by rw [found]; simp), ?_⟩
          intro other unlogged
          have different : other ≠ key := fun same => unlogged (same ▸ logged)
          rw [node?_put _ _ _ _ below, if_neg different]

theorem writeLine_written {sinks more : List Sink} (w : World) (line : String)
    (inside : ∀ sink ∈ more, sink ∈ sinks) :
    Written sinks w.files (w.writeLine line more).files ∧
      (w.writeLine line more).journal = w.journal := by
  induction more generalizing w with
  | nil => exact ⟨Written.refl sinks _, rfl⟩
  | cons sink rest ih =>
      have insideRest : ∀ sink ∈ rest, sink ∈ sinks := fun other member =>
        inside other (List.mem_cons_of_mem sink member)
      cases sink with
      | events => exact ih w insideRest
      | console => exact ih { w with console := w.console ++ line } insideRest
      | file key =>
          cases key with
          | none => exact ih w insideRest
          | some key =>
              have first := written_append (inside _ List.mem_cons_self) w.files (Text.utf8 line)
              obtain ⟨further, journal⟩ :=
                ih { w with files := w.files.append key (Text.utf8 line) } insideRest
              exact ⟨first.trans further, journal⟩

theorem log_written (level : Level) (logger message : String) (w : World) :
    ∃ w' t, log level logger message w = ⟨.ok (), w', t⟩ ∧ Logs w t w' ∧
      Written w.journal.sinks w.files w'.files ∧ w'.journal = w.journal := by
  obtain ⟨w', t, step, logs⟩ := log_run level logger message w
  refine ⟨w', t, step, logs, ?_⟩
  unfold log logAt at step
  split at step
  · cases step
    exact writeLine_written w _ fun _ member => member
  · cases step
    exact ⟨Written.refl _ _, rfl⟩

def asks (t : List Event) : Bool := t.any fun e => e.device == .network

def failure? : Response → Option String
  | .refused reason => some reason
  | .answered status _ ending =>
    if 400 ≤ status then some s!"{status} error"
    else
      match ending with
      | .timeout reason => some reason
      | _ => none

/-- Why receiving a response breaks down in an unforeseen way, if it does. -/
def crash? : Response → Option String
  | .answered status _ (.crash reason) => if 400 ≤ status then none else some reason
  | _ => none

def body? : Response → Option (List UInt8)
  | .answered status chunks .complete =>
    if 400 ≤ status then none else some (chunks.flatMap Text.utf8)
  | _ => none

/-- All but one file is as it was, and that one is no directory. -/
structure Touches (key : Key) (s s' : Store) : Prop where
  others : ∀ other, other ≠ key → s'.node? other = s.node? other
  noDirectory : s'.node? key ≠ some .directory

theorem Touches.keeps {key : Key} {s s' : Store} (touches : Touches key s s')
    (noDirectory : s.node? key ≠ some .directory) : Keeps s s' := by
  intro other found
  have different : other ≠ key := fun same => noDirectory (same ▸ found)
  rw [touches.others other different]
  exact found

inductive Requested (url : String) (part : Key) (response : Response) :
    Except Fault Unit → Store → Prop where
  | failed (reason : String) (s : Store) (failure : failure? response = some reason) :
      Requested url part response (.error (.download url reason)) s
  | crashed (reason : String) (s : Store) (crash : crash? response = some reason) :
      Requested url part response (.error (.network reason)) s
  | received (body : List UInt8) (s : Store) (whole : body? response = some body)
      (stored : s.node? part = some (.file body)) :
      Requested url part response (.ok ()) s

section

variable {directory : Path} {name : String} (legal : Legal directory name)

include legal

theorem changeFiles_write {w : World} (content : List UInt8) (holds : w.files.Holds directory)
    (noDirectory : w.files.node? (directory.child name).key ≠ some .directory) :
    changeFiles (fun s => s.write (directory.child name) content) w =
      ⟨.ok (), { w with
        files := w.files.put (directory.child name).key (.file content) }, []⟩ := by
  unfold changeFiles
  simp only [write_child holds legal content noDirectory]

theorem node?_put_self (s : Store) (content : List UInt8) :
    (s.put (directory.child name).key (.file content)).node? (directory.child name).key =
      some (.file content) := by
  rw [node?_put _ _ _ _ legal.below, if_pos rfl]

theorem touches_put (s : Store) (content : List UInt8) :
    Touches (directory.child name).key s (s.put (directory.child name).key (.file content)) where
  others := by
    intro other different
    rw [node?_put _ _ _ _ legal.below, if_neg different]
  noDirectory := by
    rw [node?_put_self legal]
    simp

/-- A body is received from the beginning: whatever the part file held before is gone. -/
theorem receive_run {w : World} (url : String) (status : Int) (chunks : List String)
    (ending : Ending) (holds : w.files.Holds directory)
    (noDirectory : w.files.node? (directory.child name).key ≠ some .directory) :
    ∃ answer s t, receive url (directory.child name) status chunks ending w =
        ⟨answer, { w with files := s }, t⟩ ∧ Touches (directory.child name).key w.files s ∧
      Requested url (directory.child name).key (.answered status chunks ending) answer s := by
  unfold receive
  by_cases refused : 400 ≤ status
  · rw [if_pos refused]
    refine ⟨_, w.files, [], rfl, ⟨fun _ _ => rfl, noDirectory⟩, ?_⟩
    refine .failed _ _ ?_
    simp [failure?, refused]
  · rw [if_neg refused]
    let key := (directory.child name).key
    let body := chunks.flatMap Text.utf8
    let opened : World := { w with files := w.files.put key (.file []) }
    let filled : World := { w with files := opened.files.put key (.file body) }
    have openedHolds : opened.files.Holds directory :=
      holds.keeps (keeps_put legal.below noDirectory)
    have openedFile : opened.files.node? key ≠ some .directory :=
      (touches_put legal w.files []).noDirectory
    have touches : Touches key w.files filled.files := by
      refine ⟨?_, (touches_put legal opened.files body).noDirectory⟩
      intro other different
      rw [(touches_put legal opened.files body).others other different,
        (touches_put legal w.files []).others other different]
    have steps (last : Act World Unit) (answer : Except Fault Unit)
        (ended : last filled = ⟨answer, filled, []⟩) :
        (changeFiles (fun s => s.write (directory.child name) []) >>= fun _ =>
          Act.emit (.httpIterate chunkSize) >>= fun _ =>
          changeFiles (fun s => s.write (directory.child name) body) >>= fun _ => last) w =
        ⟨answer, filled, [.httpIterate chunkSize]⟩ := by
      refine Act.bind_run (changeFiles_write legal [] holds noDirectory) ?_ rfl
      refine Act.bind_run (Act.emit_run _ _) ?_ rfl
      exact Act.bind_run (changeFiles_write legal body openedHolds openedFile) ended rfl
    cases ending with
    | complete =>
        refine ⟨_, _, _, steps _ _ rfl, touches, ?_⟩
        refine .received body _ (by simp [body?, refused, body]) ?_
        exact node?_put_self legal opened.files body
    | timeout reason =>
        exact ⟨_, _, _, steps _ _ rfl, touches, .failed _ _ (by simp [failure?, refused])⟩
    | crash reason =>
        exact ⟨_, _, _, steps _ _ rfl, touches, .crashed _ _ (by simp [crash?, refused])⟩

end

def nextAnswer (w : World) : Response :=
  (next (.refused "no response scripted") w.scripts.responses).1

def responseTaken (w : World) : World :=
  { w with scripts := { w.scripts with
      responses := (next (.refused "no response scripted") w.scripts.responses).2 } }

theorem nextResponse_run (w : World) :
    nextResponse w = ⟨.ok (nextAnswer w), responseTaken w, []⟩ := rfl

section

variable {directory : Path} {name : String} (legal : Legal directory name)

include legal

theorem request_run {w : World} (url : String) (timeout : Number) (holds : w.files.Holds directory)
    (noDirectory : w.files.node? (directory.child name).key ≠ some .directory) :
    ∃ answer w' t, request url (directory.child name) timeout w = ⟨answer, w', t⟩ ∧
      asks t = true ∧ w'.journal = w.journal ∧
      Touches (directory.child name).key w.files w'.files ∧
      Requested url (directory.child name).key (nextAnswer w) answer w'.files := by
  have asked := nextResponse_run w
  unfold request
  rw [Act.bind_of_ok _ (Act.emit_run _ _), Act.bind_of_ok _ asked]
  cases response : nextAnswer w with
  | refused reason =>
      exact ⟨_, responseTaken w, [.httpGet url timeout], rfl, rfl, rfl,
        ⟨fun _ _ => rfl, noDirectory⟩, .failed reason _ rfl⟩
  | answered status chunks ending =>
      obtain ⟨answer, files, t, received, touches, requested⟩ :=
        receive_run legal (w := responseTaken w) url status chunks ending holds noDirectory
      have closed := Act.ensuring_run received (Act.emit_run .httpClose _)
      exact ⟨answer, { responseTaken w with files := files }, _,
        congrArg (Ran.after [.httpGet url timeout]) closed, rfl, rfl, touches, requested⟩

end

/-- The state of a cache between two calls: what stands under the name of the model. -/
structure Cache (directory : Path) (name : String) (content : Option (List UInt8)) (w : World) :
    Prop where
  stored : w.files.node? (directory.child name).key = content.map Node.file
  part : w.files.node? (directory.child (name ++ ".part")).key ≠ some .directory
  unlogged : .file (some (directory.child name).key) ∉ w.journal.sinks
  unloggedPart : .file (some (directory.child (name ++ ".part")).key) ∉ w.journal.sinks
  held : content ≠ none → w.files.Holds directory

theorem part_ne (directory : Path) (name : String) :
    (directory.child (name ++ ".part")).key ≠ (directory.child name).key := by
  rw [key_child, key_child]
  intro same
  have names := List.append_cancel_left same
  have lengths := congrArg String.length (List.cons.inj names).1
  rw [String.length_append] at lengths
  have suffix : ".part".length = 5 := rfl
  omega

section

variable {directory : Path} {name : String} {content : Option (List UInt8)} {w w' : World}

theorem Cache.written (cache : Cache directory name content w)
    (written : Written w.journal.sinks w.files w'.files) (journal : w'.journal = w.journal) :
    Cache directory name content w' where
  stored := by rw [written.others _ cache.unlogged, cache.stored]
  part := by
    rw [written.others _ cache.unloggedPart]
    exact cache.part
  unlogged := by
    rw [journal]
    exact cache.unlogged
  unloggedPart := by
    rw [journal]
    exact cache.unloggedPart
  held := fun filled => (cache.held filled).keeps written.keeps

/-- Making directories touches neither the name nor its part, which lie deeper. -/
theorem Cache.grows {s : Store} (cache : Cache directory name none w)
    (grows : Grows w.files s directory.key.length) :
    Cache directory name none { w with files := s } where
  stored := by
    have deeper : directory.key.length < (directory.child name).key.length := by
      simp [key_child]
    exact (grows.bounded _ deeper).trans cache.stored
  part := by
    have deeper : directory.key.length < (directory.child (name ++ ".part")).key.length := by
      simp [key_child]
    change s.node? _ ≠ _
    rw [grows.bounded _ deeper]
    exact cache.part
  unlogged := cache.unlogged
  unloggedPart := cache.unloggedPart
  held := fun filled => absurd rfl filled

theorem Cache.touches (cache : Cache directory name none w)
    (touches : Touches (directory.child (name ++ ".part")).key w.files w'.files)
    (journal : w'.journal = w.journal) : Cache directory name none w' where
  stored := by rw [touches.others _ (part_ne directory name).symm, cache.stored]
  part := touches.noDirectory
  unlogged := by
    rw [journal]
    exact cache.unlogged
  unloggedPart := by
    rw [journal]
    exact cache.unloggedPart
  held := fun filled => absurd rfl filled

end

inductive Downloaded (directory : Path) (name url : String) (response : Response) :
    Ran World Path → Prop where
  | blocked (fault : FileFault) (w : World) (t : List Event) (unasked : asks t = false)
      (cache : Cache directory name none w) :
      Downloaded directory name url response ⟨.error (.file fault), w, t⟩
  | failed (reason : String) (w : World) (t : List Event) (asked : asks t = true)
      (failure : failure? response = some reason) (cache : Cache directory name none w)
      (noPart : w.files.node? (directory.child (name ++ ".part")).key = none) :
      Downloaded directory name url response ⟨.error (.download url reason), w, t⟩
  | crashed (reason : String) (w : World) (t : List Event) (asked : asks t = true)
      (crash : crash? response = some reason) (cache : Cache directory name none w) :
      Downloaded directory name url response ⟨.error (.network reason), w, t⟩
  | stored (body : List UInt8) (w : World) (t : List Event) (asked : asks t = true)
      (whole : body? response = some body) (cache : Cache directory name (some body) w) :
      Downloaded directory name url response ⟨.ok (directory.child name), w, t⟩

section

variable {directory : Path} {name : String} (legal : Legal directory name)
  (legalPart : Legal directory (name ++ ".part"))

theorem asks_append (t u : List Event) : asks (t ++ u) = (asks t || asks u) := List.any_append

theorem part_of (directory : Path) (name : String) :
    (directory.child name).addSuffix ".part" = directory.child (name ++ ".part") := by
  unfold Path.addSuffix
  rw [Path.name?_child, Path.parent_child]

include legalPart in
theorem discard_download {w : World} (url reason : String) (holds : w.files.Holds directory)
    (cache : Cache directory name none w) :
    ∃ w', discard (directory.child (name ++ ".part")) (.download url reason) w =
        ⟨.error (.download url reason), w', []⟩ ∧ Cache directory name none w' ∧
      w'.files.node? (directory.child (name ++ ".part")).key = none := by
  obtain ⟨key?, unlinked, removed⟩ := unlink_child holds legalPart cache.part
  rcases removed with rfl | ⟨rfl, free⟩
  · let gone : World := { w with files := w.files.remove (directory.child (name ++ ".part")).key }
    have touches : Touches (directory.child (name ++ ".part")).key w.files gone.files := by
      refine ⟨?_, ?_⟩
      · intro other different
        rw [node?_remove _ _ _ legalPart.below, if_neg different]
      · rw [node?_remove _ _ _ legalPart.below, if_pos rfl]
        simp
    have unlinks : Rig.unlink (directory.child (name ++ ".part")) w = ⟨.ok (), gone, []⟩ := by
      unfold Rig.unlink
      rw [unlinked]
      simp only [moveFile_same cache.unloggedPart]
      rfl
    refine ⟨gone, Act.bind_run unlinks (Act.fail_run _ _) rfl, cache.touches touches rfl, ?_⟩
    rw [node?_remove _ _ _ legalPart.below, if_pos rfl]
  · have unlinks : Rig.unlink (directory.child (name ++ ".part")) w = ⟨.ok (), w, []⟩ := by
      unfold Rig.unlink
      rw [unlinked]
      rfl
    exact ⟨w, Act.bind_run unlinks (Act.fail_run _ _) rfl, cache, free⟩

include legal legalPart in
theorem replace_part {w : World} {body : List UInt8} (holds : w.files.Holds directory)
    (cache : Cache directory name none w)
    (whole : w.files.node? (directory.child (name ++ ".part")).key = some (.file body)) :
    ∃ w', replace (directory.child (name ++ ".part")) (directory.child name) w =
        ⟨.ok (), w', []⟩ ∧ Cache directory name (some body) w' := by
  have free : w.files.node? (directory.child name).key ≠ some .directory := by
    rw [cache.stored]
    simp
  have replaced := replace_child holds legalPart legal whole free
  have noDirectory : (w.files.remove (directory.child (name ++ ".part")).key).node?
      (directory.child name).key ≠ some .directory := by
    rw [node?_remove _ _ _ legalPart.below, if_neg (part_ne directory name).symm]
    exact free
  let named : World := { w with
    files := (w.files.remove (directory.child (name ++ ".part")).key).put
      (directory.child name).key (.file body) }
  refine ⟨named, ?_, ?_⟩
  · unfold Rig.replace
    rw [replaced]
    simp only [moveFile_same cache.unlogged, moveFile_same cache.unloggedPart]
    rfl
  · refine ⟨node?_put_self legal _ body, ?_, cache.unlogged, cache.unloggedPart, fun _ => ?_⟩
    · rw [node?_put _ _ _ _ legal.below, if_neg (part_ne directory name),
        node?_remove _ _ _ legalPart.below, if_pos rfl]
      simp
    · exact (holds.keeps (keeps_remove legalPart.below cache.part)).keeps
        (keeps_put legal.below noDirectory)

theorem asks_log {w w' : World} {t : List Event} (logs : Logs w t w') : asks t = false := by
  rw [asks, List.any_eq_false]
  intro e member
  rw [List.mem_singleton.mp (logs.within e member)]
  exact Bool.false_ne_true

theorem Downloaded.after {url : String} {response : Response} {ran : Ran World Path}
    {t : List Event} (downloaded : Downloaded directory name url response ran)
    (unasked : asks t = false) : Downloaded directory name url response (ran.after t) := by
  have same (u : List Event) : asks (t ++ u) = asks u := by
    rw [asks_append, unasked, Bool.false_or]
  cases downloaded with
  | blocked fault w u unasked cache => exact .blocked fault w _ ((same u).trans unasked) cache
  | failed reason w u asked failure cache noPart =>
      exact .failed reason w _ ((same u).trans asked) failure cache noPart
  | crashed reason w u asked crash cache =>
      exact .crashed reason w _ ((same u).trans asked) crash cache
  | stored body w u asked whole cache => exact .stored body w _ ((same u).trans asked) whole cache

include legal legalPart

/-- What follows once the directory is there and the download has been announced. -/
theorem fetching_downloaded {w : World} (url : String) (timeout : Number)
    (holds : w.files.Holds directory) (cache : Cache directory name none w) :
    Downloaded directory name url (nextAnswer w)
      ((Act.recover (request url (directory.child (name ++ ".part")) timeout)
          (discard (directory.child (name ++ ".part"))) >>= fun _ =>
        Rig.replace (directory.child (name ++ ".part")) (directory.child name) >>= fun _ =>
        log .info loggerName s!"Cached classifier at {(directory.child name).text}" >>= fun _ =>
        pure (directory.child name)) w) := by
  obtain ⟨answer, w₁, t, asked, asksNetwork, journal, touches, requested⟩ :=
    request_run legalPart url timeout holds cache.part
  have cache₁ := cache.touches touches journal
  have holds₁ := holds.keeps (touches.keeps cache.part)
  have asksThen (u : List Event) : asks (t ++ u) = true := by
    rw [asks_append, asksNetwork, Bool.true_or]
  cases requested with
  | failed reason s failure =>
      obtain ⟨w₂, discarded, cache₂, noPart⟩ := discard_download legalPart url reason holds₁ cache₁
      rw [Act.bind_of_error _ (Act.recover_error asked discarded)]
      exact .failed reason w₂ _ (asksThen _) failure cache₂ noPart
  | crashed reason s crash =>
      have passed : discard (directory.child (name ++ ".part")) (.network reason) w₁ =
          ⟨.error (.network reason), w₁, []⟩ := rfl
      rw [Act.bind_of_error _ (Act.recover_error asked passed)]
      exact .crashed reason w₁ _ (asksThen _) crash cache₁
  | received body s whole stored =>
      obtain ⟨w₂, replaced, cache₂⟩ := replace_part legal legalPart holds₁ cache₁ stored
      obtain ⟨w₃, u, logged, logs, written, journal₃⟩ := log_written .info loggerName
        s!"Cached classifier at {(directory.child name).text}" w₂
      rw [Act.bind_of_ok _ (Act.recover_ok _ asked), Act.bind_of_ok _ replaced,
        Act.bind_of_ok _ logged]
      exact .stored body w₃ _ (asksThen _) whole (cache₂.written written journal₃)

theorem download_downloaded {w : World} (plain : ".." ∉ directory.names) (url : String)
    (timeout : Number) (cache : Cache directory name none w) :
    Downloaded directory name url (nextAnswer w)
      (download url (directory.child name) timeout w) := by
  have grows := makeDirectories_grows (directory.names.length + 1) (s := w.files) plain
  change Grows w.files (w.files.ensureDirectory directory).1 _ at grows
  unfold download
  rw [Path.parent_child, part_of]
  rcases ensured : w.files.ensureDirectory directory with ⟨s, _ | fault⟩
  · rw [ensured] at grows
    let made : World := { w with files := s }
    have makes : Rig.ensureDirectory directory w = ⟨.ok (), made, []⟩ := by
      unfold Rig.ensureDirectory
      rw [ensured]
    have holds : made.files.Holds directory := ensureDirectory_holds plain ensured
    obtain ⟨w₁, telling, logged, logs, written, journal⟩ :=
      log_written .info loggerName s!"Downloading classifier from {url}" made
    have cache₁ := (cache.grows grows).written written journal
    have sameAnswer : nextAnswer w₁ = nextAnswer w := by
      rw [nextAnswer, logs.scripts]
      rfl
    have fetched :=
      fetching_downloaded legal legalPart url timeout (holds.keeps written.keeps) cache₁
    rw [sameAnswer] at fetched
    rw [Act.bind_of_ok _ makes, Act.bind_of_ok _ logged]
    exact fetched.after (asks_log logs)
  · rw [ensured] at grows
    have fails : Rig.ensureDirectory directory w =
        ⟨.error (.file fault), { w with files := s }, []⟩ := by
      unfold Rig.ensureDirectory
      rw [ensured]
    rw [Act.bind_of_error _ fails]
    exact .blocked fault _ _ rfl (cache.grows grows)

end

end HatReel.Model
