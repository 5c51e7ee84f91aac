import HatReel.Proofs.Model.Cache
import HatReel.Proofs.Model.Loading

/-! Any number of calls for one model, each with a network of its own.

What a call finds in the cache is what the first of the earlier calls has fetched that received a
whole body. The induction is on the calls; one call keeps the invariant of the cache. -/

namespace HatReel.Model

open HatReel.Decimal HatReel.Files HatReel.Files.Store HatReel.Log HatReel.Rig

/-- One call for the cached model: the responses that the network has for it, and its timeout. -/
structure Call where
  responses : List Response
  timeout : Number

def Call.response (c : Call) : Response := (next (.refused "no response scripted") c.responses).1

section

variable (cacheDir url : String)

def call (c : Call) (w : World) : Ran World Path :=
  resolve none cacheDir url c.timeout
    { w with scripts := { w.scripts with responses := c.responses } }

def worldAfter : List Call → World → World
  | [], w => w
  | c :: rest, w => worldAfter rest (call cacheDir url c w).state

/-- The body that a call has fetched, if it has asked the network and received a whole one. -/
def fetched? (c : Call) (w : World) : Option (List UInt8) :=
  if asks (call cacheDir url c w).trace then body? c.response else none

def firstFetched? : List Call → World → Option (List UInt8)
  | [], _ => none
  | c :: rest, w =>
    (fetched? cacheDir url c w).or (firstFetched? rest (call cacheDir url c w).state)

end

structure Serves (url : String) (target : Path) (response : Response)
    (held : Option (List UInt8)) (w : World) (ran : Ran World Path) : Prop where
  /-- A model that is there is given without a request, and no file changes but those logged to. -/
  given : ∀ content, held = some content → ran.answer = .ok target ∧ asks ran.trace = false ∧
    ∀ key, .file (some key) ∉ w.journal.sinks → ran.state.files.node? key = w.files.node? key
  /-- Before a request nothing but the files can be in the way. -/
  blocked : held = none → asks ran.trace = false → ∃ fault, ran.answer = .error (.file fault)
  failed : held = none → asks ran.trace = true → ∀ reason, failure? response = some reason →
    ran.answer = .error (.download url reason) ∧ ran.state.files.node? target.key = none ∧
      ran.state.files.node? (target.addSuffix ".part").key = none
  crashed : held = none → asks ran.trace = true → ∀ reason, crash? response = some reason →
    ran.answer = .error (.network reason) ∧ ran.state.files.node? target.key = none
  received : held = none → asks ran.trace = true → ∀ body, body? response = some body →
    ran.answer = .ok target

/-- What a cache holds that should hold the given content: that and no other, or nothing. -/
structure Contains (s : Store) (target : Path) (content : Option (List UInt8)) : Prop where
  node : s.node? target.key = content.map Node.file
  read : ∀ bytes, content = some bytes → s.read target = .ok bytes
  absent : content = none → s.exists? target ≠ .ok true

/-- The system can have a file under the last name of the path. -/
structure IsLegal (p : Path) : Prop where
  short : ∀ name ∈ p.name?, isTooLong name = false
  noNull : ∀ name ∈ p.name?, name.toList.contains '\x00' = false
  fits : p.text.utf8ByteSize ≤ 4095

section

variable {directory : Path} {name : String} {content : Option (List UInt8)} {w : World}

theorem IsLegal.legal (legal : IsLegal (directory.child name)) (filled : name ≠ "")
    (notDouble : name ≠ "..") : Legal directory name where
  filled := filled
  notDouble := notDouble
  noNull := legal.noNull name (Path.name?_child directory name)
  short := legal.short name (Path.name?_child directory name)
  fits := legal.fits

theorem exists?_absent {s : Store} {p : Path} (plain : ".." ∉ p.names)
    (absent : s.node? p.key = none) : s.exists? p ≠ .ok true := by
  intro found
  unfold exists? at found
  rcases looked : s.look? p with fault | _ | node
  · rw [looked] at found
    cases found
  · rw [looked] at found
    cases found
  · obtain ⟨_, key, leads⟩ := look?_some looked
    have followed := look_ok leads
    have there := follow_node followed
    rw [follow_key plain followed] at there
    exact Option.some_ne_none node (there.symm.trans absent)

theorem Cache.contains (cache : Cache directory name content w) (legal : Legal directory name)
    (plain : ".." ∉ (directory.child name).names) :
    Contains w.files (directory.child name) content where
  node := cache.stored
  read := by
    rintro bytes rfl
    exact read_child (cache.held (Option.some_ne_none bytes)) legal cache.stored
  absent := by
    rintro rfl
    exact exists?_absent plain cache.stored

end

theorem failure_alone {response : Response} {reason : String}
    (failure : failure? response = some reason) :
    crash? response = none ∧ body? response = none := by
  cases response with
  | refused other => exact ⟨rfl, rfl⟩
  | answered status chunks ending =>
      by_cases bad : 400 ≤ status
      · cases ending <;> simp [crash?, body?, bad]
      · cases ending <;> simp [failure?, crash?, body?, bad] at failure ⊢

theorem crash_alone {response : Response} {reason : String}
    (crash : crash? response = some reason) :
    failure? response = none ∧ body? response = none := by
  cases response with
  | refused other => cases crash
  | answered status chunks ending =>
      by_cases bad : 400 ≤ status
      · cases ending <;> simp [crash?, bad] at crash
      · cases ending <;> simp [failure?, crash?, body?, bad] at crash ⊢

theorem body_alone {response : Response} {body : List UInt8} (whole : body? response = some body) :
    failure? response = none ∧ crash? response = none := by
  cases response with
  | refused other => cases whole
  | answered status chunks ending =>
      by_cases bad : 400 ≤ status
      · cases ending <;> simp [body?, bad] at whole
      · cases ending <;> simp [failure?, crash?, body?, bad] at whole ⊢

theorem downloaded_serves {directory : Path} {name url : String} {response : Response} {w : World}
    {ran : Ran World Path} (downloaded : Downloaded directory name url response ran) :
    Serves url (directory.child name) response none w ran ∧
      Cache directory name (if asks ran.trace then body? response else none) ran.state := by
  have empty {P : Prop} (content : List UInt8) (held : none = some content) : P := by cases held
  cases downloaded with
  | blocked fault w t unasked cache =>
      have quiet {P : Prop} (asked : asks t = true) : P := by
        rw [unasked] at asked
        cases asked
      refine ⟨⟨empty, fun _ _ => ⟨fault, rfl⟩, fun _ => quiet, fun _ => quiet, fun _ => quiet⟩, ?_⟩
      rw [unasked]
      exact cache
  | failed reason w t asked failure cache noPart =>
      obtain ⟨noCrash, noBody⟩ := failure_alone failure
      refine ⟨⟨empty, ?_, ?_, ?_, ?_⟩, ?_⟩
      · intro _ unasked
        rw [asked] at unasked
        cases unasked
      · intro _ _ other same
        rw [failure] at same
        cases same
        exact ⟨rfl, cache.stored, by rw [part_of, noPart]⟩
      · intro _ _ other crash
        rw [noCrash] at crash
        cases crash
      · intro _ _ body whole
        rw [noBody] at whole
        cases whole
      · rw [asked, noBody]
        exact cache
  | crashed reason w t asked crash cache =>
      obtain ⟨noFailure, noBody⟩ := crash_alone crash
      refine ⟨⟨empty, ?_, ?_, ?_, ?_⟩, ?_⟩
      · intro _ unasked
        rw [asked] at unasked
        cases unasked
      · intro _ _ other failure
        rw [noFailure] at failure
        cases failure
      · intro _ _ other same
        rw [crash] at same
        cases same
        exact ⟨rfl, cache.stored⟩
      · intro _ _ body whole
        rw [noBody] at whole
        cases whole
      · rw [asked, noBody]
        exact cache
  | stored body w t asked whole cache =>
      obtain ⟨noFailure, noCrash⟩ := body_alone whole
      refine ⟨⟨empty, ?_, ?_, ?_, ?_⟩, ?_⟩
      · intro _ unasked
        rw [asked] at unasked
        cases unasked
      · intro _ _ other failure
        rw [noFailure] at failure
        cases failure
      · intro _ _ other crash
        rw [noCrash] at crash
        cases crash
      · intro _ _ _ _
        rfl
      · rw [asked, whole]
        exact cache

theorem call_homes (cacheDir url : String) (c : Call) (w : World) :
    (call cacheDir url c w).state.scripts.homes = w.scripts.homes := by
  obtain ⟨responses, scripts⟩ := (fetches_resolve none cacheDir url c.timeout
    { w with scripts := { w.scripts with responses := c.responses } }).scripts
  exact (congrArg Scripts.homes scripts :)

theorem worldAfter_homes (cacheDir url : String) (calls : List Call) (w : World) :
    (worldAfter cacheDir url calls w).scripts.homes = w.scripts.homes := by
  induction calls generalizing w with
  | nil => rfl
  | cons c rest ih => exact (ih _).trans (call_homes cacheDir url c w)

section

variable {cacheDir url : String} {directory : Path} {name : String}
  (plain : ".." ∉ (directory.child name).names) (legal : Legal directory name)
  (legalPart : Legal directory (name ++ ".part"))

include plain legal legalPart

/-- One call does what it should and keeps the invariant. -/
theorem call_serves {held : Option (List UInt8)} {w : World} (c : Call)
    (known : cachedPath url cacheDir w.scripts.homes = .ok (directory.child name))
    (cache : Cache directory name held w) :
    Serves url (directory.child name) c.response held w (call cacheDir url c w) ∧
      Cache directory name (held.or (fetched? cacheDir url c w)) (call cacheDir url c w).state := by
  let w₀ : World := { w with scripts := { w.scripts with responses := c.responses } }
  have cache₀ : Cache directory name held w₀ :=
    ⟨cache.stored, cache.part, cache.unlogged, cache.unloggedPart, cache.held⟩
  have resolved : call cacheDir url c w =
      (askFiles (fun s => s.exists? (directory.child name)) >>= fun found =>
        if found then
          log .debug loggerName s!"Using cached classifier {(directory.child name).text}"
            >>= fun _ => pure (directory.child name)
        else download url (directory.child name) c.timeout) w₀ := by
    unfold call
    rw [resolve_eq]
    unfold resolveAt
    simp only
    rw [known]
    rfl
  have plainAbove : ".." ∉ directory.names := fun member =>
    plain (List.mem_append_left _ member)
  rw [fetched?, resolved]
  cases held with
  | some content =>
      have there : w₀.files.exists? (directory.child name) = .ok true :=
        exists?_child (cache.held (Option.some_ne_none content)) legal cache.stored
      have found : askFiles (fun s => s.exists? (directory.child name)) w₀ =
          ⟨.ok true, w₀, []⟩ := by
        unfold askFiles
        simp only [there]
      obtain ⟨w₁, t, logged, logs, written, journal⟩ := log_written .debug loggerName
        s!"Using cached classifier {(directory.child name).text}" w₀
      have unasked : asks (t ++ []) = false := by rw [List.append_nil, asks_log logs]
      rw [Act.bind_of_ok _ found, if_pos rfl, Act.bind_of_ok _ logged]
      refine ⟨⟨?_, ?_, ?_, ?_, ?_⟩, cache₀.written written journal⟩
      · intro _ _
        exact ⟨rfl, unasked, written.others⟩
      all_goals
        intro never
        cases never
  | none =>
      rcases answered : w₀.files.exists? (directory.child name) with fault | _ | _
      · have asked : askFiles (fun s => s.exists? (directory.child name)) w₀ =
            ⟨.error (.file fault), w₀, []⟩ := by
          unfold askFiles
          simp only [answered]
        rw [Act.bind_of_error _ asked]
        exact downloaded_serves (.blocked fault w₀ [] rfl cache₀)
      · have asked : askFiles (fun s => s.exists? (directory.child name)) w₀ =
            ⟨.ok false, w₀, []⟩ := by
          unfold askFiles
          simp only [answered]
        rw [Act.bind_of_ok _ asked]
        have downloaded := download_downloaded legal legalPart plainAbove url c.timeout cache₀
        exact downloaded_serves downloaded
      · exact absurd answered (exists?_absent plain cache.stored)

theorem cache_after {held : Option (List UInt8)} {w : World} (calls : List Call)
    (known : cachedPath url cacheDir w.scripts.homes = .ok (directory.child name))
    (cache : Cache directory name held w) :
    Cache directory name (held.or (firstFetched? cacheDir url calls w))
      (worldAfter cacheDir url calls w) := by
  induction calls generalizing held w with
  | nil =>
      rw [firstFetched?, Option.or_none]
      exact cache
  | cons c rest ih =>
      have next := (call_serves plain legal legalPart c known cache).2
      rw [firstFetched?, ← Option.or_assoc]
      exact ih (by rwa [call_homes]) next

end

theorem ofText_filled (text : String) : ∀ name ∈ (Path.ofText text).names, name ≠ "" := by
  intro name member same
  obtain ⟨part, kept, rfl⟩ := List.mem_map.mp member
  have notSkipped := (List.mem_filter.mp kept).2
  have empty : part = [] := by
    rw [← String.toList_ofList (l := part), same]
    rfl
  rw [empty] at notSkipped
  cases notSkipped

theorem modelName_filled (route : List Char) : modelName route ≠ "" := by
  unfold modelName
  cases named : (Path.ofText (String.ofList route)).name? with
  | none => decide
  | some name => exact ofText_filled _ name (List.mem_of_getLast? named)

theorem cachedPath_ok {url cacheDir : String} {homes : Homes} {target : Path}
    (known : cachedPath url cacheDir homes = .ok target) :
    ∃ (directory : Path) (name : String), target = directory.child name ∧ name ≠ "" := by
  unfold cachedPath at known
  cases route : Web.path url with
  | error fault =>
      rw [route] at known
      cases known
  | ok cs =>
      rw [route] at known
      cases expanded : (Path.ofText cacheDir).expandHome? homes with
      | none =>
          rw [expanded] at known
          cases known
      | some directory =>
          rw [expanded] at known
          cases known
          exact ⟨directory, modelName cs, rfl, modelName_filled cs⟩

theorem firstFetched?_concat (cacheDir url : String) (calls : List Call) (c : Call) (w : World) :
    firstFetched? cacheDir url (calls ++ [c]) w =
      (firstFetched? cacheDir url calls w).or
        (fetched? cacheDir url c (worldAfter cacheDir url calls w)) := by
  induction calls generalizing w with
  | nil => simp [firstFetched?, worldAfter]
  | cons first rest ih =>
      rw [List.cons_append, firstFetched?, ih, firstFetched?, Option.or_assoc]
      rfl

/-- Whatever networks the calls meet, the model in the cache is whole. Each call finds there what
the first of the calls before it has fetched, if one has, and does what it should; afterwards its
own body is there if it is the first one. -/
theorem cache_whole {cacheDir url : String} {target : Path} {w : World}
    (known : cachedPath url cacheDir w.scripts.homes = .ok target) (plain : ".." ∉ target.names)
    (legal : IsLegal target) (legalPart : IsLegal (target.addSuffix ".part"))
    (absent : w.files.node? target.key = none)
    (noDirectory : w.files.node? (target.addSuffix ".part").key ≠ some .directory)
    (unlogged : .file (some target.key) ∉ w.journal.sinks)
    (unloggedPart : .file (some (target.addSuffix ".part").key) ∉ w.journal.sinks)
    (before : List Call) (c : Call) :
    Serves url target c.response (firstFetched? cacheDir url before w)
        (worldAfter cacheDir url before w)
        (call cacheDir url c (worldAfter cacheDir url before w)) ∧
      Contains (call cacheDir url c (worldAfter cacheDir url before w)).state.files target
        (firstFetched? cacheDir url (before ++ [c]) w) := by
  obtain ⟨directory, name, rfl, filled⟩ := cachedPath_ok known
  rw [part_of] at legalPart noDirectory unloggedPart
  have notDouble : name ≠ ".." := by
    rintro rfl
    exact plain (List.mem_append_right _ List.mem_cons_self)
  have partNotDouble : name ++ ".part" ≠ ".." := by
    intro same
    have lengths := congrArg String.length same
    rw [String.length_append] at lengths
    have suffix : ".part".length = 5 := rfl
    have dots : "..".length = 2 := rfl
    omega
  have partFilled : name ++ ".part" ≠ "" := by
    intro same
    have lengths := congrArg String.length same
    rw [String.length_append] at lengths
    have suffix : ".part".length = 5 := rfl
    have zero : "".length = 0 := rfl
    omega
  have fresh : Cache directory name none w :=
    ⟨absent, noDirectory, unlogged, unloggedPart, fun held => absurd rfl held⟩
  have legalName := legal.legal filled notDouble
  have legalPartName := legalPart.legal partFilled partNotDouble
  have cache := cache_after plain legalName legalPartName before known fresh
  rw [Option.none_or] at cache
  obtain ⟨serves, after⟩ := call_serves plain legalName legalPartName c
    (by rwa [worldAfter_homes]) cache
  rw [firstFetched?_concat]
  exact ⟨serves, after.contains legalName plain⟩

/-- A network that is down, one that breaks down on the way, and one that answers. -/
def retries : List Call := [
  ⟨[.refused "down"], .whole 60⟩,
  ⟨[.answered 200 ["<x"] (.crash "gone")], .whole 60⟩,
  ⟨[.answered 200 ["<xml", "", "/>"] .complete], .whole 60⟩]

theorem cache_whole_retried :
    let target : Path := ⟨.here, ["cache", "m.xml"]⟩
    let answered : Call := ⟨[.answered 404 [] .complete], .whole 60⟩
    cachedPath "http://h/m.xml" "cache" = .ok target ∧ ".." ∉ target.names ∧ IsLegal target ∧
      IsLegal (target.addSuffix ".part") ∧
      Contains (call "cache" "http://h/m.xml" answered
          (worldAfter "cache" "http://h/m.xml" retries {})).state.files target
        (some (Text.utf8 "<xml/>")) := by
  intro target answered
  have known : cachedPath "http://h/m.xml" "cache" = .ok target := by rfl
  have plain : ".." ∉ target.names := by decide
  have legal : IsLegal target :=
    ⟨by simp [target, Path.name?]; decide, by simp [target, Path.name?], by decide⟩
  have legalPart : IsLegal (target.addSuffix ".part") :=
    ⟨by decide, by decide, by decide⟩
  have whole :=
    (cache_whole (w := {}) known plain legal legalPart (by decide) (by decide) (by decide)
      (by decide) retries answered).2
  have first : firstFetched? "cache" "http://h/m.xml" (retries ++ [answered]) {} =
      some (Text.utf8 "<xml/>") := by decide +kernel
  rw [first] at whole
  exact ⟨known, plain, legal, legalPart, whole⟩

end HatReel.Model
