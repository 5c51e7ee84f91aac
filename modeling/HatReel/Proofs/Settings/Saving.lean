import HatReel.Proofs.Settings.Sound
import HatReel.Proofs.Yaml.Rereading
import HatReel.Settings.File

/-! Settings that are saved.

A field is kept if its saved value reads back and its reader then gives what the field held. All
fields are kept whose whole numbers have few enough digits: the readers refuse nothing that has been
read before. -/

namespace HatReel.Settings

open HatReel.Camera HatReel.Document HatReel.Log HatReel.Yaml

namespace Checked

theorem require_of {α : Type} {a : α} {p : α → Bool} {complaint : α → Complaint}
    (holds : p a = true) : (Checked.valid a).require p complaint = .valid a := by
  unfold require bind
  simp only [holds]
  rfl

end Checked

theorem Fields.read_here {α : Type} (name : String) (v : Value) (rest : Fields) (default : α)
    (read : Value → Checked α) :
    Fields.read ((.text name, v) :: rest) name default read = (read v).under (.field name) := by
  unfold Fields.read Fields.find?
  simp

theorem Fields.read_there {α : Type} {name other : String} (v : Value) (rest : Fields) (default : α)
    (read : Value → Checked α) (differs : other ≠ name) :
    Fields.read ((.text other, v) :: rest) name default read =
      Fields.read rest name default read := by
  unfold Fields.read Fields.find?
  simp [differs]

/-- A field's saved value reads back, and its reader gives what the field held. -/
structure Field.Keeps {α : Type} (f : Field) (read : Value → Checked α) (a : α) : Prop where
  rereads : Rereads f.saved
  valid : read (reread f.saved) = .valid a

theorem keeps_source {source : Source} (short : ∀ n, source = .index n → HasFewDigits n) :
    Field.Keeps ⟨"source", .whole, source.value⟩ sourceValue source := by
  cases source with
  | index n => exact ⟨rereads_int (short n rfl), rfl⟩
  | name s => exact ⟨rereads_text s, rfl⟩

theorem keeps_whole {name : String} {n : Int} {read : Value → Checked Int} (short : HasFewDigits n)
    (valid : read (.int n) = .valid n) : Field.Keeps ⟨name, .whole, .int n⟩ read n :=
  ⟨rereads_int short, valid⟩

theorem keeps_optional {name : String} {o : Option Int} {read : Value → Checked Int}
    (short : ∀ n ∈ o, HasFewDigits n) (valid : ∀ n ∈ o, read (.int n) = .valid n) :
    Field.Keeps ⟨name, .whole, optionValue .int o⟩ (optional read) o := by
  cases o with
  | none => exact ⟨rereads_null, rfl⟩
  | some n =>
      refine ⟨rereads_int (short n rfl), ?_⟩
      change (read (.int n)).map some = _
      rw [valid n rfl]
      rfl

theorem keeps_real {name : String} {x : Float} {read : Value → Checked Float}
    (valid : read (.float x) = .valid x) : Field.Keeps ⟨name, .real, .float x⟩ read x :=
  ⟨rereads_float x, valid⟩

theorem keeps_text {α : Type} {name s : String} {a : α} {read : Value → Checked α}
    (valid : read (.text s) = .valid a) : Field.Keeps ⟨name, .other, .text s⟩ read a :=
  ⟨rereads_text s, valid⟩

theorem keeps_name (name : String) (o : Option String) :
    Field.Keeps ⟨name, .other, optionValue .text o⟩ (optional textValue) o := by
  cases o with
  | none => exact ⟨rereads_null, rfl⟩
  | some s => exact ⟨rereads_text s, rfl⟩

theorem keeps_switch (name : String) (b : Bool) :
    Field.Keeps ⟨name, .other, .bool b⟩ switchValue b := ⟨rereads_bool b, rfl⟩

theorem keeps_level (name : String) (l : Level) :
    Field.Keeps ⟨name, .other, .text l.name⟩ levelValue l := by
  refine keeps_text ?_
  have isLevel : Level.ofName? l.name = some l := by cases l <;> decide +kernel
  unfold levelValue textValue Checked.bind
  simp only [isLevel]

theorem keeps_pair (name : String) {pair : Int × Int}
    (short : HasFewDigits pair.1 ∧ HasFewDigits pair.2) :
    Field.Keeps ⟨name, .other, .tuple [.int pair.1, .int pair.2]⟩ pairValue pair :=
  ⟨@rereads_ints [pair.1, pair.2] (List.cons_ne_nil _ _) (by simpa using short), rfl⟩

structure SectionKeeps {α : Type} (fields : List Field) (read : Fields → Checked α) (a : α) :
    Prop where
  rereads : ∀ f ∈ fields, Rereads f.saved
  valid : read (fields.map fun f => (.text f.name, reread f.saved)) = .valid a

theorem camera_keeps {s : CameraSettings} (gamma : 0.0 < s.gamma)
    (source : ∀ n, s.source = .index n → HasFewDigits n) (width : ∀ n ∈ s.width, HasFewDigits n)
    (height : ∀ n ∈ s.height, HasFewDigits n) : SectionKeeps s.fields readCamera s := by
  have source := keeps_source source
  have width := @keeps_optional "width" s.width wholeValue width fun _ _ => rfl
  have height := @keeps_optional "height" s.height wholeValue height fun _ _ => rfl
  have gamma := @keeps_real "gamma" s.gamma (fun v => positive (realValue v))
    (Checked.require_of (decide_eq_true gamma))
  constructor
  · simp only [CameraSettings.fields, List.forall_mem_cons]
    exact ⟨source.rereads, width.rereads, height.rereads, gamma.rereads, by simp⟩
  · unfold readCamera CameraSettings.fields
    simp only [List.map_cons, Fields.read_here, Fields.read_there, ne_eq, String.reduceEq,
      not_false_eq_true]
    rw [source.valid, width.valid, height.valid, gamma.valid]
    rfl

theorem classifier_keeps {s : ClassifierSettings} (timeout : 0.0 < s.timeout)
    (scale : ¬s.scaleFactor ≤ 1.0) (neighbors : 0 ≤ s.minNeighbors)
    (shortNeighbors : HasFewDigits s.minNeighbors)
    (shortSize : HasFewDigits s.minSize.1 ∧ HasFewDigits s.minSize.2) :
    SectionKeeps s.fields readClassifier s := by
  have url := @keeps_text _ "url" s.url s.url textValue rfl
  have cacheDir := @keeps_text _ "cache_dir" s.cacheDir s.cacheDir textValue rfl
  have timeout := @keeps_real "timeout" s.timeout (fun v => positive (realValue v))
    (Checked.require_of (decide_eq_true timeout))
  have scale := @keeps_real "scale_factor" s.scaleFactor (fun v => scaleFactor (realValue v))
    (Checked.require_of (by simpa using scale))
  have neighbors :=
    @keeps_whole "min_neighbors" s.minNeighbors (fun v => wholeFrom 0 (wholeValue v))
    shortNeighbors (Checked.require_of (decide_eq_true neighbors))
  have size := keeps_pair "min_size" shortSize
  constructor
  · simp only [ClassifierSettings.fields, List.forall_mem_cons]
    exact ⟨url.rereads, cacheDir.rereads, timeout.rereads, scale.rereads, neighbors.rereads,
      size.rereads, by simp⟩
  · unfold readClassifier ClassifierSettings.fields
    simp only [List.map_cons, Fields.read_here, Fields.read_there, ne_eq, String.reduceEq,
      not_false_eq_true]
    rw [url.valid, cacheDir.valid, timeout.valid, scale.valid, neighbors.valid, size.valid]
    rfl

theorem byteRange_of {x : Float} (bounds : 0.0 ≤ x ∧ x ≤ 255.0) :
    byteRange (realValue (.float x)) = .valid x := by
  have high : (Checked.valid x).require (fun x => x ≤ 255.0) (fun _ => .outOfBound (.atMost 255)) =
      .valid x := Checked.require_of (decide_eq_true bounds.2)
  unfold byteRange realValue
  simp only [high]
  exact Checked.require_of (decide_eq_true bounds.1)

theorem contours_keeps {s : ContourSettings} (threshold : 0.0 ≤ s.threshold ∧ s.threshold ≤ 255.0)
    (maxValue : 0.0 ≤ s.maxValue ∧ s.maxValue ≤ 255.0) (ratio : 0.0 < s.epsilonRatio) :
    SectionKeeps s.fields readContours s := by
  have threshold := @keeps_real "threshold" s.threshold (fun v => byteRange (realValue v))
    (byteRange_of threshold)
  have maxValue := @keeps_real "max_value" s.maxValue (fun v => byteRange (realValue v))
    (byteRange_of maxValue)
  have ratio := @keeps_real "epsilon_ratio" s.epsilonRatio (fun v => positive (realValue v))
    (Checked.require_of (decide_eq_true ratio))
  constructor
  · simp only [ContourSettings.fields, List.forall_mem_cons]
    exact ⟨threshold.rereads, maxValue.rereads, ratio.rereads, by simp⟩
  · unfold readContours ContourSettings.fields
    simp only [List.map_cons, Fields.read_here, Fields.read_there, ne_eq, String.reduceEq,
      not_false_eq_true]
    rw [threshold.valid, maxValue.valid, ratio.valid]
    rfl

theorem warp_keeps {s : WarpSettings} (spread : 0.0 ≤ s.spread)
    (seed : ∀ n ∈ s.seed, HasFewDigits n) :
    SectionKeeps s.fields readWarp s := by
  have spread := @keeps_real "spread" s.spread (fun v => notNegative (realValue v))
    (Checked.require_of (decide_eq_true spread))
  have seed := @keeps_optional "seed" s.seed wholeValue seed fun _ _ => rfl
  constructor
  · simp only [WarpSettings.fields, List.forall_mem_cons]
    exact ⟨spread.rereads, seed.rereads, by simp⟩
  · unfold readWarp WarpSettings.fields
    simp only [List.map_cons, Fields.read_here, Fields.read_there, ne_eq, String.reduceEq,
      not_false_eq_true]
    rw [spread.valid, seed.valid]
    rfl

theorem recorder_keeps {s : RecorderSettings} (fps : 0.0 < s.fps) (code : s.fourcc.length = 4) :
    SectionKeeps s.fields readRecorder s := by
  have path := @keeps_text _ "path" s.path s.path textValue rfl
  have fps := @keeps_real "fps" s.fps (fun v => positive (realValue v))
    (Checked.require_of (decide_eq_true fps))
  have code := @keeps_text _ "fourcc" s.fourcc s.fourcc (fun v => fourcc (textValue v))
    (Checked.require_of (by simpa using code))
  constructor
  · simp only [RecorderSettings.fields, List.forall_mem_cons]
    exact ⟨path.rereads, fps.rereads, code.rereads, by simp⟩
  · unfold readRecorder RecorderSettings.fields
    simp only [List.map_cons, Fields.read_here, Fields.read_there, ne_eq, String.reduceEq,
      not_false_eq_true]
    rw [path.valid, fps.valid, code.valid]
    rfl

theorem display_keeps {s : DisplaySettings} (gamma : 0.0 < s.gamma) :
    SectionKeeps s.fields readDisplay s := by
  have title := @keeps_text _ "title" s.title s.title textValue rfl
  have enabled := keeps_switch "enabled" s.enabled
  have gamma := @keeps_real "gamma" s.gamma (fun v => positive (realValue v))
    (Checked.require_of (decide_eq_true gamma))
  constructor
  · simp only [DisplaySettings.fields, List.forall_mem_cons]
    exact ⟨title.rereads, enabled.rereads, gamma.rereads, by simp⟩
  · unfold readDisplay DisplaySettings.fields
    simp only [List.map_cons, Fields.read_here, Fields.read_there, ne_eq, String.reduceEq,
      not_false_eq_true]
    rw [title.valid, enabled.valid, gamma.valid]
    rfl

theorem run_keeps {s : RunSettings} (frames : ∀ n ∈ s.maxFrames, 1 ≤ n)
    (short : ∀ n ∈ s.maxFrames, HasFewDigits n) : SectionKeeps s.fields readRun s := by
  have frames :=
    @keeps_optional "max_frames" s.maxFrames (fun v => wholeFrom 1 (wholeValue v)) short
    fun n inside => Checked.require_of (decide_eq_true (frames n inside))
  constructor
  · simp only [RunSettings.fields, List.forall_mem_cons]
    exact ⟨frames.rereads, by simp⟩
  · unfold readRun RunSettings.fields
    simp only [List.map_cons, Fields.read_here]
    rw [frames.valid]
    rfl

theorem logging_keeps (s : LoggingSettings) : SectionKeeps s.fields readLogging s := by
  have level := keeps_level "level" s.level
  have file := keeps_name "file" s.file
  constructor
  · simp only [LoggingSettings.fields, List.forall_mem_cons]
    exact ⟨level.rereads, file.rereads, by simp⟩
  · unfold readLogging LoggingSettings.fields
    simp only [List.map_cons, Fields.read_here, Fields.read_there, ne_eq, String.reduceEq,
      not_false_eq_true]
    rw [level.valid, file.valid]
    rfl

end HatReel.Settings
