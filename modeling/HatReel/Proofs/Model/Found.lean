import HatReel.Proofs.Model.Permits

/-! Models that are there.

A model that has been resolved is there, whether it was there before or has been downloaded. The
next time it is resolved the network is left alone, and loading it begins with handing its path to
the detector. -/

namespace HatReel.Files.Store

theorem exists?_of_look {s : Store} {p : Path} {key : Key} {node : Node}
    (noNull : p.hasNull = false) (looked : s.look p = .ok (key, node)) :
    s.exists? p = .ok true := by
  unfold exists? look?
  rw [noNull, if_neg Bool.false_ne_true, looked]
  rfl

theorem isFile?_of_exists? {s : Store} {p : Path} (there : s.exists? p = .ok true) :
    ∃ isFile, s.isFile? p = .ok isFile := by
  unfold exists? at there
  unfold isFile?
  rcases found : s.look? p with fault | node
  · rw [found] at there
    cases there
  · exact ⟨_, rfl⟩

end HatReel.Files.Store

namespace HatReel.Model

open HatReel.Decimal HatReel.Files HatReel.Files.Store HatReel.Log HatReel.Rig HatReel.Rig.Act

variable {cacheDir url : String} {timeout : Number} {path : Path} {w w' : World} {t : List Event}

theorem log_exists? {level : Level} {logger message : String}
    (told : log level logger message w = ⟨.ok (), w', t⟩) (p : Path) :
    w'.files.exists? p = w.files.exists? p := by
  have kinds := log_kinds level logger message w
  rw [told] at kinds
  exact exists?_like kinds tells_isDirectory fun _ _ => trivial

theorem download_there {target : Path} (ran : download url target timeout w = ⟨.ok path, w', t⟩) :
    w'.files.exists? target = .ok true := by
  obtain ⟨-, whole, named, t₁, t₂, replaced, told⟩ := download_ok ran
  rw [log_exists? told]
  unfold Rig.replace at replaced
  split at replaced <;> cases replaced
  next moved =>
    obtain ⟨noNull, content, looked⟩ := replace_look moved
    exact exists?_of_look noNull looked

theorem resolve_there (ran : resolve none cacheDir url timeout w = ⟨.ok path, w', t⟩) :
    w'.files.exists? path = .ok true := by
  rw [resolve_eq] at ran
  obtain ⟨cached, _, _, _, placed, asking, _⟩ := bind_ok ran
  obtain ⟨-, rfl, -⟩ := ofExcept_ok placed
  obtain ⟨found, _, _, _, asked, finding, _⟩ := bind_ok asking
  cases found with
  | false =>
      rw [(download_ok finding).1]
      exact download_there finding
  | true =>
      obtain ⟨_, _, _, _, told, returned, _⟩ := bind_ok finding
      obtain ⟨rfl, rfl, -⟩ := pure_ok returned
      rw [log_exists? told]
      unfold askFiles at asked
      split at asked <;> cases asked
      assumption

/-- A model that is there is resolved with a message at most. -/
theorem resolve_cached (timeout : Number)
    (placed : cachedPath url cacheDir w.scripts.homes = .ok path)
    (there : w.files.exists? path = .ok true) :
    ∃ w' t, resolve none cacheDir url timeout w = ⟨.ok path, w', t⟩ ∧ Logs w t w' ∧
      SameKinds w.files w'.files := by
  obtain ⟨w', t, told, logs, kinds⟩ :=
    log_alike .debug loggerName s!"Using cached classifier {path.text}" w
  have asked : askFiles (fun s => s.exists? path) w = ⟨.ok true, w, []⟩ := by
    unfold askFiles
    simp only [there]
  refine ⟨w', t, ?_, logs, kinds⟩
  rw [resolve_eq]
  unfold resolveAt
  simp only
  rw [placed, ofExcept_ok_bind]
  exact bind_run asked (bind_run told (pure_run _ _) (List.append_nil t).symm) rfl

/-- Loading a model that is there fails at once if it is no file. Otherwise it begins with handing
the path to the detector, and after that there are messages only. -/
theorem load_run (there : w.files.exists? path = .ok true) :
    w.files.isFile? path = .ok false ∧ load path w = ⟨.error (.modelMissing path.text), w, []⟩ ∨
      ∃ answer w' t, load path w = ⟨answer, w', .cascadeLoad path.text :: t⟩ ∧
        Within [.journal] t := by
  obtain ⟨isFile, isSo⟩ := isFile?_of_exists? there
  have asked : askFiles (fun s => s.isFile? path) w = ⟨.ok isFile, w, []⟩ := by
    unfold askFiles
    simp only [isSo]
  cases isFile with
  | false =>
      refine .inl ⟨isSo, ?_⟩
      unfold load
      rw [bind_of_ok _ asked]
      rfl
  | true =>
      have handed : emit (.cascadeLoad path.text) w = ⟨.ok (), w, [.cascadeLoad path.text]⟩ := rfl
      obtain ⟨w', t, told, logs⟩ := log_run .info loggerName s!"Loaded classifier {path.text}" w
      right
      unfold load
      cases raises : w.scripts.cascade.raises with
      | some reason =>
          refine ⟨.error (.modelUnreadable path.text reason), w, [], ?_, Within.nil⟩
          refine bind_run asked (bind_run handed ?_ rfl) rfl
          simp only [get_bind, raises]
          rfl
      | none =>
          cases empty : !w.scripts.cascade.loads || w.scripts.cascade.empty with
          | true =>
              refine ⟨.error (.modelEmpty path.text), w, [], ?_, Within.nil⟩
              refine bind_run asked (bind_run handed ?_ rfl) rfl
              simp only [get_bind, raises, empty]
              rfl
          | false =>
              refine ⟨.ok (), w', t, bind_run asked (bind_run handed ?_ rfl) rfl, logs.within⟩
              simp only [get_bind, raises, empty]
              exact told

end HatReel.Model
