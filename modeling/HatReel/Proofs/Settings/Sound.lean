import HatReel.Settings.Reader

/-! What reading guarantees.

A field that has been read satisfies whatever its reader checks and its default satisfies by itself.
Every configuration that comes out of reading is sound: all its bounds hold. -/

namespace HatReel.Settings

open HatReel.Document

namespace Checked

variable {α β : Type}

theorem map_valid {f : α → β} {c : Checked α} {b : β} (valid : f <$> c = .valid b) :
    ∃ a, c = .valid a ∧ b = f a := by
  cases c with
  | invalid problems => cases valid
  | valid a =>
      cases valid
      exact ⟨a, rfl, rfl⟩

theorem ap_valid {f : Checked (α → β)} {c : Checked α} {b : β} (valid : f <*> c = .valid b) :
    ∃ g a, f = .valid g ∧ c = .valid a ∧ b = g a := by
  cases f with
  | invalid problems => cases c <;> cases valid
  | valid g =>
      cases c with
      | invalid problems => cases valid
      | valid a =>
          cases valid
          exact ⟨g, a, rfl, rfl, rfl⟩

theorem under_valid {s : Step} {c : Checked α} {a : α} (valid : c.under s = .valid a) :
    c = .valid a := by
  cases c with
  | invalid problems => cases valid
  | valid b => exact valid

theorem require_valid {c : Checked α} {p : α → Bool} {complaint : α → Complaint} {a : α}
    (valid : c.require p complaint = .valid a) : c = .valid a ∧ p a = true := by
  cases c with
  | invalid problems => cases valid
  | valid b =>
      cases accepted : p b with
      | false =>
          simp only [require, bind, accepted] at valid
          cases valid
      | true =>
          simp only [require, bind, accepted] at valid
          cases valid
          exact ⟨rfl, accepted⟩

end Checked

/-- A property of the default and of all that the reader takes holds of the field. -/
theorem Fields.read_holds {α : Type} {fields : Fields} {name : String} {default a : α}
    {read : Value → Checked α} (P : α → Prop) (valid : fields.read name default read = .valid a)
    (ofDefault : P default) (ofRead : ∀ v b, read v = .valid b → P b) : P a := by
  unfold Fields.read at valid
  cases found : fields.find? name with
  | none =>
      rw [found] at valid
      cases valid
      exact ofDefault
  | some v =>
      rw [found] at valid
      exact ofRead v a (Checked.under_valid valid)

theorem positive_valid {c : Checked Float} {x : Float} (valid : positive c = .valid x) :
    0.0 < x := of_decide_eq_true (Checked.require_valid valid).2

theorem notNegative_valid {c : Checked Float} {x : Float} (valid : notNegative c = .valid x) :
    0.0 ≤ x := of_decide_eq_true (Checked.require_valid valid).2

theorem byteRange_valid {c : Checked Float} {x : Float} (valid : byteRange c = .valid x) :
    0.0 ≤ x ∧ x ≤ 255.0 := by
  obtain ⟨inner, low⟩ := Checked.require_valid valid
  exact ⟨of_decide_eq_true low, of_decide_eq_true (Checked.require_valid inner).2⟩

theorem wholeFrom_valid {low : Nat} {c : Checked Int} {n : Int}
    (valid : wholeFrom low c = .valid n) : (low : Int) ≤ n :=
  of_decide_eq_true (Checked.require_valid valid).2

theorem scaleFactor_valid {c : Checked Float} {x : Float} (valid : scaleFactor c = .valid x) :
    ¬x ≤ 1.0 := by
  have accepted := (Checked.require_valid valid).2
  simpa using accepted

theorem fourcc_valid {c : Checked String} {s : String} (valid : fourcc c = .valid s) :
    s.length = 4 := by
  have accepted := (Checked.require_valid valid).2
  simpa using accepted

theorem optional_valid {α : Type} {read : Value → Checked α} {v : Value} {found : Option α}
    (P : α → Prop) (valid : optional read v = .valid found)
    (ofRead : ∀ v a, read v = .valid a → P a) : ∀ a ∈ found, P a := by
  intro a member
  cases member
  unfold optional at valid
  split at valid
  · cases valid
  · cases inner : read v with
    | invalid problems =>
        rw [inner] at valid
        cases valid
    | valid b =>
        rw [inner] at valid
        cases valid
        exact ofRead v a inner

end HatReel.Settings

namespace HatReel

open HatReel.Settings

structure Config.Sound (c : Config) : Prop where
  cameraGamma : 0.0 < c.camera.gamma
  timeout : 0.0 < c.classifier.timeout
  scaleFactor : ¬c.classifier.scaleFactor ≤ 1.0
  minNeighbors : 0 ≤ c.classifier.minNeighbors
  threshold : 0.0 ≤ c.contours.threshold ∧ c.contours.threshold ≤ 255.0
  maxValue : 0.0 ≤ c.contours.maxValue ∧ c.contours.maxValue ≤ 255.0
  epsilonRatio : 0.0 < c.contours.epsilonRatio
  spread : 0.0 ≤ c.warp.spread
  fps : 0.0 < c.recorder.fps
  fourcc : c.recorder.fourcc.length = 4
  displayGamma : 0.0 < c.display.gamma
  maxFrames : ∀ n ∈ c.run.maxFrames, 1 ≤ n

def Config.IsRead (c : Config) : Prop := ∃ sections, readConfig sections = .valid c

namespace Settings

open HatReel.Document

theorem readSection_holds {α : Type} {name : String} {read : Fields → Checked α} (P : α → Prop)
    (ofFields : ∀ fields a, read fields = .valid a → P a) (v : Value) (a : α)
    (valid : readSection name read v = .valid a) : P a := by
  unfold readSection at valid
  split at valid
  · exact ofFields _ a valid
  · cases valid

theorem readCamera_sound (fields : Fields) (s : CameraSettings)
    (valid : readCamera fields = .valid s) : 0.0 < s.gamma := by
  obtain ⟨_, _, rest, gammaRead, rfl⟩ := Checked.ap_valid valid
  obtain ⟨_, _, rest₁, _, rfl⟩ := Checked.ap_valid rest
  obtain ⟨_, _, rest₂, _, rfl⟩ := Checked.ap_valid rest₁
  obtain ⟨_, _, rfl⟩ := Checked.map_valid rest₂
  exact Fields.read_holds (0.0 < ·) gammaRead (by decide +kernel) fun _ _ => positive_valid

theorem readClassifier_sound (fields : Fields) (s : ClassifierSettings)
    (valid : readClassifier fields = .valid s) :
    0.0 < s.timeout ∧ ¬s.scaleFactor ≤ 1.0 ∧ 0 ≤ s.minNeighbors := by
  obtain ⟨_, _, rest, _, rfl⟩ := Checked.ap_valid valid
  obtain ⟨_, _, rest₁, neighborsRead, rfl⟩ := Checked.ap_valid rest
  obtain ⟨_, _, rest₂, scaleRead, rfl⟩ := Checked.ap_valid rest₁
  obtain ⟨_, _, rest₃, timeoutRead, rfl⟩ := Checked.ap_valid rest₂
  obtain ⟨_, _, rest₄, _, rfl⟩ := Checked.ap_valid rest₃
  obtain ⟨_, _, rfl⟩ := Checked.map_valid rest₄
  refine ⟨?_, ?_, ?_⟩
  · exact Fields.read_holds (0.0 < ·) timeoutRead (by decide +kernel) fun _ _ => positive_valid
  · exact Fields.read_holds (¬· ≤ 1.0) scaleRead (by decide +kernel) fun _ _ => scaleFactor_valid
  · exact Fields.read_holds (0 ≤ ·) neighborsRead (by decide) fun _ _ => wholeFrom_valid

theorem readContours_sound (fields : Fields) (s : ContourSettings)
    (valid : readContours fields = .valid s) :
    (0.0 ≤ s.threshold ∧ s.threshold ≤ 255.0) ∧ (0.0 ≤ s.maxValue ∧ s.maxValue ≤ 255.0) ∧
      0.0 < s.epsilonRatio := by
  obtain ⟨_, _, rest, ratioRead, rfl⟩ := Checked.ap_valid valid
  obtain ⟨_, _, rest₁, maxRead, rfl⟩ := Checked.ap_valid rest
  obtain ⟨_, thresholdRead, rfl⟩ := Checked.map_valid rest₁
  refine ⟨?_, ?_, ?_⟩
  · exact Fields.read_holds (fun x => 0.0 ≤ x ∧ x ≤ 255.0) thresholdRead (by decide +kernel)
      fun _ _ => byteRange_valid
  · exact Fields.read_holds (fun x => 0.0 ≤ x ∧ x ≤ 255.0) maxRead (by decide +kernel)
      fun _ _ => byteRange_valid
  · exact Fields.read_holds (0.0 < ·) ratioRead (by decide +kernel) fun _ _ => positive_valid

theorem readWarp_sound (fields : Fields) (s : WarpSettings)
    (valid : readWarp fields = .valid s) : 0.0 ≤ s.spread := by
  obtain ⟨_, _, rest, _, rfl⟩ := Checked.ap_valid valid
  obtain ⟨_, spreadRead, rfl⟩ := Checked.map_valid rest
  exact Fields.read_holds (0.0 ≤ ·) spreadRead (by decide +kernel) fun _ _ => notNegative_valid

theorem readRecorder_sound (fields : Fields) (s : RecorderSettings)
    (valid : readRecorder fields = .valid s) : 0.0 < s.fps ∧ s.fourcc.length = 4 := by
  obtain ⟨_, _, rest, codeRead, rfl⟩ := Checked.ap_valid valid
  obtain ⟨_, _, rest₁, fpsRead, rfl⟩ := Checked.ap_valid rest
  obtain ⟨_, _, rfl⟩ := Checked.map_valid rest₁
  refine ⟨?_, ?_⟩
  · exact Fields.read_holds (0.0 < ·) fpsRead (by decide +kernel) fun _ _ => positive_valid
  · exact Fields.read_holds (·.length = 4) codeRead (by decide) fun _ _ => fourcc_valid

theorem readDisplay_sound (fields : Fields) (s : DisplaySettings)
    (valid : readDisplay fields = .valid s) : 0.0 < s.gamma := by
  obtain ⟨_, _, rest, gammaRead, rfl⟩ := Checked.ap_valid valid
  obtain ⟨_, _, rest₁, _, rfl⟩ := Checked.ap_valid rest
  obtain ⟨_, _, rfl⟩ := Checked.map_valid rest₁
  exact Fields.read_holds (0.0 < ·) gammaRead (by decide +kernel) fun _ _ => positive_valid

theorem readRun_sound (fields : Fields) (s : RunSettings)
    (valid : readRun fields = .valid s) : ∀ n ∈ s.maxFrames, 1 ≤ n := by
  obtain ⟨_, maxRead, rfl⟩ := Checked.map_valid valid
  refine Fields.read_holds (fun found : Option Int => ∀ n ∈ found, 1 ≤ n) maxRead (by simp) ?_
  intro v found inner
  exact optional_valid (1 ≤ ·) inner fun _ _ => wholeFrom_valid

end Settings

theorem Config.IsRead.sound {c : Config} (read : c.IsRead) : c.Sound := by
  obtain ⟨sections, valid⟩ := read
  obtain ⟨_, _, rest, _, rfl⟩ := Checked.ap_valid valid
  obtain ⟨_, run, rest₁, runRead, rfl⟩ := Checked.ap_valid rest
  obtain ⟨_, display, rest₂, displayRead, rfl⟩ := Checked.ap_valid rest₁
  obtain ⟨_, recorder, rest₃, recorderRead, rfl⟩ := Checked.ap_valid rest₂
  obtain ⟨_, warp, rest₄, warpRead, rfl⟩ := Checked.ap_valid rest₃
  obtain ⟨_, contours, rest₅, contoursRead, rfl⟩ := Checked.ap_valid rest₄
  obtain ⟨_, classifier, rest₆, classifierRead, rfl⟩ := Checked.ap_valid rest₅
  obtain ⟨camera, cameraRead, rfl⟩ := Checked.map_valid rest₆
  have cameraSound := Fields.read_holds _ cameraRead
    (readCamera_sound [] _ rfl) (readSection_holds _ readCamera_sound)
  have classifierSound := Fields.read_holds _ classifierRead
    (readClassifier_sound [] _ rfl) (readSection_holds _ readClassifier_sound)
  have contoursSound := Fields.read_holds _ contoursRead
    (readContours_sound [] _ rfl) (readSection_holds _ readContours_sound)
  have warpSound := Fields.read_holds _ warpRead
    (readWarp_sound [] _ rfl) (readSection_holds _ readWarp_sound)
  have recorderSound := Fields.read_holds _ recorderRead
    (readRecorder_sound [] _ rfl) (readSection_holds _ readRecorder_sound)
  have displaySound := Fields.read_holds _ displayRead
    (readDisplay_sound [] _ rfl) (readSection_holds _ readDisplay_sound)
  have runSound := Fields.read_holds _ runRead
    (readRun_sound [] _ rfl) (readSection_holds _ readRun_sound)
  exact ⟨cameraSound, classifierSound.1, classifierSound.2.1, classifierSound.2.2,
    contoursSound.1, contoursSound.2.1, contoursSound.2.2, warpSound, recorderSound.1,
    recorderSound.2, displaySound, runSound⟩

end HatReel
