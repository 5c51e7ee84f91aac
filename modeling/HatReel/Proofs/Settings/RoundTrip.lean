import HatReel.Proofs.Files.Trails
import HatReel.Proofs.Settings.Saving
import HatReel.Proofs.Text.Utf8

/-! Settings that are saved and loaded again.

The names of sections and fields do not depend on the settings, and can stand as keys. So a record
is printed as a document of sections, which reads back; its bytes read back as its text, in which no
line end is changed, and the file that was written is the one that is read. -/

namespace HatReel

open HatReel.Settings HatReel.Yaml

/-- All whole numbers have few enough digits to be read. -/
structure Config.IsShort (c : Config) : Prop where
  source : ∀ n, c.camera.source = .index n → HasFewDigits n
  width : ∀ n ∈ c.camera.width, HasFewDigits n
  height : ∀ n ∈ c.camera.height, HasFewDigits n
  minNeighbors : HasFewDigits c.classifier.minNeighbors
  minSize : HasFewDigits c.classifier.minSize.1 ∧ HasFewDigits c.classifier.minSize.2
  seed : ∀ n ∈ c.warp.seed, HasFewDigits n
  maxFrames : ∀ n ∈ c.run.maxFrames, HasFewDigits n

namespace Settings

open HatReel.Document HatReel.Files HatReel.Text

variable {c : Config}

def Section.reread (s : Section) : Value × Value :=
  (.text s.name, .map (s.fields.map fun f => (.text f.name, Yaml.reread f.saved)))

theorem record_keeps (sound : c.Sound) (short : c.IsShort) :
    (∀ s ∈ record c, ∀ f ∈ s.fields, Rereads f.saved) ∧
      readConfig ((record c).map Section.reread) = .valid c := by
  have camera := camera_keeps sound.cameraGamma short.source short.width short.height
  have classifier := classifier_keeps sound.timeout sound.scaleFactor sound.minNeighbors
    short.minNeighbors short.minSize
  have contours := contours_keeps sound.threshold sound.maxValue sound.epsilonRatio
  have warp := warp_keeps sound.spread short.seed
  have recorder := recorder_keeps sound.fps sound.fourcc
  have display := display_keeps sound.displayGamma
  have run := run_keeps sound.maxFrames short.maxFrames
  have logging := logging_keeps c.logging
  constructor
  · simp only [record, List.forall_mem_cons]
    exact ⟨camera.rereads, classifier.rereads, contours.rereads, warp.rereads, recorder.rereads,
      display.rereads, run.rereads, logging.rereads, by simp⟩
  · unfold readConfig record
    simp only [List.map_cons, Section.reread, Fields.read_here, Fields.read_there, ne_eq,
      String.reduceEq, not_false_eq_true, readSection]
    rw [camera.valid, classifier.valid, contours.valid, warp.valid, recorder.valid, display.valid,
      run.valid, logging.valid]
    rfl

def names (r : Record) : List (String × List String) :=
  List.map (fun s => (s.name, s.fields.map (·.name))) r

theorem names_record (c : Config) : names (record c) = names (record {}) := rfl

theorem names_fit : ((names (record {})).map (·.1)).Nodup ∧
    (names (record {})).all (fun e => decide (IsKey e.1.toList) && decide (e.2 ≠ []) &&
      decide e.2.Nodup && e.2.all fun n => decide (IsKey n.toList)) = true := by
  decide +kernel

structure Section.IsFit (s : Section) : Prop where
  isKey : IsKey s.name.toList
  more : s.fields ≠ []
  distinct : (s.fields.map (·.name)).Nodup
  fields : ∀ f ∈ s.fields, IsKey f.name.toList

theorem record_fit (c : Config) : ∀ s ∈ record c, s.IsFit := by
  intro s inside
  have isNamed : (s.name, s.fields.map (·.name)) ∈ names (record {}) := by
    rw [← names_record c]
    exact List.mem_map_of_mem inside
  have fit := List.all_eq_true.mp names_fit.2 _ isNamed
  simp only [Bool.and_eq_true, decide_eq_true_eq, List.all_eq_true] at fit
  obtain ⟨⟨⟨isKey, more⟩, distinct⟩, fields⟩ := fit
  exact ⟨isKey, fun empty => more (by rw [empty]; rfl), distinct, fun f isField =>
    fields f.name (List.mem_map_of_mem isField)⟩

def Section.part (s : Section) (fit : s.IsFit) : Part :=
  ⟨s.name, s.fields.map fun f => (f.name, f.saved), mt List.map_eq_nil_iff.mp fit.more⟩

def parts (c : Config) : List Part := (record c).pmap Section.part (record_fit c)

theorem text_record (c : Config) :
    (record c).text = printMapping ((parts c).map fun p => named p.entry) := rfl

theorem reread_record (c : Config) :
    (parts c).map (fun p => named p.reread.entry) = (record c).map Section.reread := rfl

theorem parts_sections (sound : c.Sound) (short : c.IsShort) : ∀ p ∈ parts c, p.IsSection := by
  intro p inside
  obtain ⟨s, isSection, rfl⟩ := List.mem_pmap.mp inside
  have fit := record_fit c s isSection
  refine ⟨fit.isKey, ?_, ?_⟩
  · intro e isEntry
    obtain ⟨f, isField, rfl⟩ := List.mem_map.mp isEntry
    exact ⟨fit.fields f isField, (record_keeps sound short).1 s isSection f isField⟩
  · have same : (s.part fit).fields.map (·.1) = s.fields.map (·.name) := by
      unfold Section.part
      rw [List.map_map]
      rfl
    rw [same]
    exact fit.distinct

theorem parts_distinct (c : Config) : ((parts c).map Part.name).Nodup := names_fit.1

/-- Settings are read from the text that they are saved as. -/
theorem ofText_text (sound : c.Sound) (short : c.IsShort) : ofText (record c).text = .ok c := by
  have more : parts c ≠ [] := List.cons_ne_nil _ _
  have value := readValue_printMapping more (parts_sections sound short) (parts_distinct c)
  rw [← text_record, reread_record] at value
  have isMap : isNothing (.map ((record c).map Section.reread)) = false := rfl
  have areNames : ((record c).map Section.reread).all (fun e => isName e.1) = true := rfl
  unfold ofText
  rw [depth, value]
  change ofDocument (.map ((record c).map Section.reread)) = .ok c
  unfold ofDocument
  rw [isMap]
  simp only [Bool.false_eq_true, if_false, areNames, if_true, (record_keeps sound short).2]

theorem fileText_text (sound : c.Sound) (short : c.IsShort) :
    fileText (utf8 (record c).text) = .ok (record c).text := by
  have more : parts c ≠ [] := List.cons_ne_nil _ _
  obtain ⟨_, _, _, _, ascii⟩ := printMapping_parts more (parts_sections sound short)
  rw [← text_record] at ascii
  have noReturn : '\r' ∉ (record c).text.toList := by
    intro inside
    cases ascii _ inside
  unfold fileText
  rw [decodeUtf8_utf8]
  simp only [unifyLines_of_no_return noReturn, String.ofList_toList]

theorem loadFile_write {s s' : Store} {p : Path} {content : List UInt8} {text : String}
    (written : s.write p content = .ok s') (isText : fileText content = .ok text) :
    loadFile s' p = ofText text := by
  obtain ⟨there, isContent⟩ := Store.read_write written
  unfold loadFile
  rw [there, isContent]
  change (fileText content >>= fun text => ofText text) = _
  rw [isText]
  rfl

theorem loadFile_ok {s : Store} {p : Path} {c : Config} (loads : loadFile s p = .ok c) :
    ∃ content text, s.read p = .ok content ∧ fileText content = .ok text ∧ ofText text = .ok c := by
  unfold loadFile at loads
  cases there : s.exists? p with
  | error fault =>
      rw [there] at loads
      cases loads
  | ok found =>
      rw [there] at loads
      cases found with
      | false => cases loads
      | true =>
          cases isContent : s.read p with
          | error fault =>
              rw [isContent] at loads
              cases loads
          | ok content =>
              rw [isContent] at loads
              change (fileText content >>= fun text => ofText text) = _ at loads
              cases isText : fileText content with
              | error fault =>
                  rw [isText] at loads
                  cases loads
              | ok text =>
                  rw [isText] at loads
                  exact ⟨content, text, rfl, isText, loads⟩

theorem loadFile_look {s : Store} {p : Path} {c : Config} (loads : loadFile s p = .ok c) :
    ∃ content, s.look p = .ok (p.goal, .file content) := by
  obtain ⟨content, _, isContent, _⟩ := loadFile_ok loads
  unfold Store.read at isContent
  split at isContent
  · cases isContent
  · split at isContent <;> cases isContent
    next key looked => exact ⟨content, Store.look_goal looked ▸ looked⟩

/-- Settings load as before as long as the directories and the file are as they were. -/
theorem loadFile_kept {s s' : Store} {p : Path} {c : Config} (loads : loadFile s p = .ok c)
    (keeps : s.Keeps s') (kept : s'.node? p.goal = s.node? p.goal) : loadFile s' p = .ok c := by
  obtain ⟨content, looked⟩ := loadFile_look loads
  have same : s'.look p = s.look p := by
    rw [looked,
      Store.look_onto keeps looked (kept.trans (Store.follow_node (Store.look_ok looked)))]
  unfold loadFile Store.exists? Store.look? Store.read at loads ⊢
  rw [same]
  exact loads

end Settings

/-- A path at which a file can be written once the directories above it have been made. -/
def Files.Store.IsWritable (s : Files.Store) (p : Files.Path) : Prop :=
  ∃ s' opened, s.ensureDirectory p.parent = (s', none) ∧ s'.openFile p = .ok opened

namespace Settings

open HatReel.Files

theorem save_writable (r : Record) {s : Store} {p : Path} (writable : s.IsWritable p) :
    ∃ next s' : Store, r.save s p = (s', none) ∧ next.write p (Text.utf8 r.text) = .ok s' := by
  obtain ⟨next, ⟨key, old⟩, made, opened⟩ := writable
  generalize isContent : Text.utf8 r.text = content
  have written : next.write p content = .ok (next.put key (.file content)) := by
    unfold Store.write
    rw [opened]
    rfl
  refine ⟨next, next.put key (.file content), ?_, written⟩
  unfold Record.save
  rw [made, isContent]
  simp only [written]

/-- Settings that have been read can be saved wherever a file can be written, and loading that file
gives the same settings. -/
theorem load_save {c : Config} (read : c.IsRead) (short : c.IsShort) {s : Store} {path : String}
    (writable : s.IsWritable (Path.ofText path)) :
    ∃ s', (record c).save s (Path.ofText path) = (s', none) ∧ load s' (some path) = .ok c := by
  obtain ⟨next, s', saved, written⟩ := save_writable (record c) writable
  refine ⟨s', saved, ?_⟩
  exact (loadFile_write written (fileText_text read.sound short)).trans
    (ofText_text read.sound short)

def oddConfig : Config where
  camera := { source := .name "0", width := some 640 }
  classifier := { minSize := (30, 40) }
  display := { title := " null\n1e3" }
  logging := { file := some "2020-01-01" }

theorem oddConfig_isRead : oddConfig.IsRead :=
  ⟨[(.text "camera", .map [(.text "source", .text "0"), (.text "width", .text "640")]),
    (.text "classifier", .map [(.text "min_size", .list [.int 30, .int 40])]),
    (.text "display", .map [(.text "title", .text " null\n1e3")]),
    (.text "logging", .map [(.text "file", .text "2020-01-01")])], rfl⟩

theorem oddConfig_isShort : oddConfig.IsShort where
  source _ isIndex := nomatch isIndex
  width n isWidth := by
    cases isWidth
    decide +kernel
  height _ isHeight := nomatch isHeight
  minNeighbors := by decide +kernel
  minSize := by decide +kernel
  seed _ isSeed := nomatch isSeed
  maxFrames _ isFrames := nomatch isFrames

theorem load_save_odd :
    oddConfig.IsRead ∧ oddConfig.IsShort ∧
      ({} : Store).IsWritable (Path.ofText "out/config.yaml") ∧
      ∃ s', (record oddConfig).save {} (Path.ofText "out/config.yaml") = (s', none) ∧
        load s' (some "out/config.yaml") = .ok oddConfig := by
  have writable : ({} : Store).IsWritable (Path.ofText "out/config.yaml") := by
    refine ⟨⟨[(["", "out"], .directory)]⟩, (["", "out", "config.yaml"], []), ?_, ?_⟩ <;>
      decide +kernel
  exact ⟨oddConfig_isRead, oddConfig_isShort, writable,
    load_save oddConfig_isRead oddConfig_isShort writable⟩

end Settings

end HatReel
