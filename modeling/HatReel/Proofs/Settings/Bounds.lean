import HatReel.Proofs.Binary.Square
import HatReel.Proofs.Settings.RoundTrip

/-! The bounds of settings that are admitted.

Settings come from data or from a file, and then all that was checked of them holds. Each bound is a
true comparison but one: a scale factor is refused if it is one or less, and what is no number is
not. So the settings are in range exactly if their scale factor is a number. -/

open Float.Model Float.Model.UnpackedFloat

namespace HatReel.Binary

theorem compare_swap (a b : UnpackedFloat) : b.compare a = (a.compare b).map Ordering.swap := by
  have exponent (e e' : Int) : (compare e e').swap = compare e' e := Std.OrientedCmp.eq_swap.symm
  have mantissa (m m' : Nat) : (compare m m').swap = compare m' m := Std.OrientedCmp.eq_swap.symm
  have sign (s s' : Sign) : (compare s s').swap = compare s' s := by cases s <;> cases s' <;> rfl
  rcases a with (_ | _) | _ | _ | ⟨(_ | _), m, e, positive⟩ <;>
    rcases b with (_ | _) | _ | _ | ⟨(_ | _), m', e', positive'⟩ <;>
      simp [UnpackedFloat.compare, Ordering.swap_then, exponent, mantissa, sign]

theorem compare_numbers {a b : UnpackedFloat} (number : a ≠ .notANumber)
    (numberToo : b ≠ .notANumber) : ∃ order, a.compare b = some order := by
  rcases a with (_ | _) | _ | _ | ⟨(_ | _), m, e, positive⟩ <;>
    rcases b with (_ | _) | _ | _ | ⟨(_ | _), m', e', positive'⟩ <;>
      simp_all [UnpackedFloat.compare]

theorem notANumber_iff {x : Float} : x.isNaN = true ↔ x.toModel.unpack = .notANumber := by
  change x.toModel.unpack.isNaN = true ↔ _
  cases x.toModel.unpack <;> simp [UnpackedFloat.isNaN]

theorem number_of_greater {x y : Float} (greater : x < y) : y.isNaN = false := by
  have isGreater : UnpackedFloat.lt x.toModel.unpack y.toModel.unpack = true :=
    of_decide_eq_true greater
  by_contra noNumber
  have isNone := notANumber_iff.mp (Bool.eq_true_of_not_eq_false noNumber)
  unfold UnpackedFloat.lt at isGreater
  rw [isNone, compare_swap] at isGreater
  cases isGreater

theorem less_of_not_atMost {x y : Float} (number : x.isNaN = false) (numberToo : y.isNaN = false)
    (notAtMost : ¬x ≤ y) : y < x := by
  have more : UnpackedFloat.le x.toModel.unpack y.toModel.unpack ≠ true :=
    fun atMost => notAtMost (decide_eq_true atMost)
  obtain ⟨order, isOrder⟩ := compare_numbers
    (fun isNone => Bool.false_ne_true (number.symm.trans (notANumber_iff.mpr isNone)))
    (fun isNone => Bool.false_ne_true (numberToo.symm.trans (notANumber_iff.mpr isNone)))
  have less : UnpackedFloat.lt y.toModel.unpack x.toModel.unpack = true := by
    unfold UnpackedFloat.le at more
    unfold UnpackedFloat.lt
    rw [compare_swap, isOrder]
    rw [isOrder] at more
    cases order <;> simp_all
  exact decide_eq_true less

end HatReel.Binary

namespace HatReel

open HatReel.Binary HatReel.Document HatReel.Files HatReel.Log HatReel.Settings HatReel.Text

def Config.IsAdmitted (c : Config) : Prop :=
  c.IsRead ∨ ∃ (s : Store) (path : Option String), load s path = .ok c

/-- All bounds are true comparisons. -/
structure Config.InRange (c : Config) : Prop where
  threshold : 0.0 ≤ c.contours.threshold ∧ c.contours.threshold ≤ 255.0
  maxValue : 0.0 ≤ c.contours.maxValue ∧ c.contours.maxValue ≤ 255.0
  epsilonRatio : 0.0 < c.contours.epsilonRatio
  spread : 0.0 ≤ c.warp.spread
  fps : 0.0 < c.recorder.fps
  cameraGamma : 0.0 < c.camera.gamma
  displayGamma : 0.0 < c.display.gamma
  timeout : 0.0 < c.classifier.timeout
  scaleFactor : 1.0 < c.classifier.scaleFactor
  minNeighbors : 0 ≤ c.classifier.minNeighbors
  maxFrames : ∀ n ∈ c.run.maxFrames, 1 ≤ n
  fourcc : c.recorder.fourcc.length = 4
  level : c.logging.level.name ∈ ["DEBUG", "INFO", "WARNING", "ERROR"]

theorem Config.Sound.inRange_iff {c : Config} (sound : c.Sound) :
    c.InRange ↔ c.classifier.scaleFactor.isNaN = false := by
  constructor
  · intro inRange
    exact number_of_greater inRange.scaleFactor
  · intro number
    have scale : 1.0 < c.classifier.scaleFactor :=
      less_of_not_atMost number (by decide +kernel) sound.scaleFactor
    have level : c.logging.level.name ∈ ["DEBUG", "INFO", "WARNING", "ERROR"] := by
      cases c.logging.level <;> decide
    exact ⟨sound.threshold, sound.maxValue, sound.epsilonRatio, sound.spread, sound.fps,
      sound.cameraGamma, sound.displayGamma, sound.timeout, scale, sound.minNeighbors,
      sound.maxFrames, sound.fourcc, level⟩

namespace Settings

theorem isRead_default : Config.IsRead {} := ⟨[], rfl⟩

theorem ofDocument_isRead {v : Value} {c : Config} (valid : ofDocument v = .ok c) : c.IsRead := by
  unfold ofDocument at valid
  split at valid
  · next sections _ =>
    split at valid
    · split at valid <;> cases valid
      next isValid => exact ⟨sections, isValid⟩
    · cases valid
  · cases valid

theorem ofText_isRead {text : String} {c : Config} (valid : ofText text = .ok c) : c.IsRead := by
  unfold ofText at valid
  rcases reading : (Yaml.readValue depth text).mapError LoadFault.document with fault | v
  · rw [reading] at valid
    cases valid
  · rw [reading] at valid
    exact ofDocument_isRead valid

theorem load_isRead {s : Store} {path : Option String} {c : Config} (loads : load s path = .ok c) :
    c.IsRead := by
  cases path with
  | none =>
      cases loads
      exact isRead_default
  | some path =>
      obtain ⟨_, _, _, _, valid⟩ := loadFile_ok loads
      exact ofText_isRead valid

theorem isRead_of_admitted {c : Config} (admitted : c.IsAdmitted) : c.IsRead := by
  rcases admitted with isRead | ⟨s, path, loads⟩
  · exact isRead
  · exact load_isRead loads

/-- A name is that of a level if its capitals are. -/
theorem ofName?_iff {s : String} {l : Level} :
    Level.ofName? s = some l ↔ String.ofList (upper s.toList) = l.name := by
  unfold Level.ofName?
  simp only
  generalize String.ofList (upper s.toList) = capital
  constructor
  · intro found
    have same := List.find?_some found
    exact (beq_iff_eq.mp same).symm
  · rintro rfl
    cases l <;> decide

theorem levelValue_valid {v : Value} {l : Level} (valid : levelValue v = .valid l) :
    ∃ s, textValue v = .valid s ∧ String.ofList (upper s.toList) = l.name := by
  unfold levelValue Checked.bind at valid
  cases isText : textValue v with
  | invalid problems =>
      rw [isText] at valid
      cases valid
  | valid s =>
      rw [isText] at valid
      simp only at valid
      cases named : Level.ofName? s with
      | none =>
          rw [named] at valid
          cases valid
      | some level =>
          rw [named] at valid
          cases valid
          exact ⟨s, rfl, ofName?_iff.mp named⟩

def givenLevel? (sections : Fields) : Option Value :=
  match sections.find? "logging" with
  | some (.map fields) => Fields.find? fields "level"
  | _ => none

theorem readConfig_logging {sections : Fields} {c : Config}
    (valid : readConfig sections = .valid c) :
    sections.read "logging" {} (readSection "LoggingConfig" readLogging) = .valid c.logging := by
  obtain ⟨_, _, rest, loggingRead, rfl⟩ := Checked.ap_valid valid
  obtain ⟨_, _, rest₁, _, rfl⟩ := Checked.ap_valid rest
  obtain ⟨_, _, rest₂, _, rfl⟩ := Checked.ap_valid rest₁
  obtain ⟨_, _, rest₃, _, rfl⟩ := Checked.ap_valid rest₂
  obtain ⟨_, _, rest₄, _, rfl⟩ := Checked.ap_valid rest₃
  obtain ⟨_, _, rest₅, _, rfl⟩ := Checked.ap_valid rest₄
  obtain ⟨_, _, rest₆, _, rfl⟩ := Checked.ap_valid rest₅
  obtain ⟨_, _, rfl⟩ := Checked.map_valid rest₆
  exact loggingRead

theorem readLogging_level {fields : Fields} {s : LoggingSettings}
    (valid : readLogging fields = .valid s) :
    fields.read "level" .info levelValue = .valid s.level := by
  obtain ⟨_, _, rest, _, rfl⟩ := Checked.ap_valid valid
  obtain ⟨_, levelRead, rfl⟩ := Checked.map_valid rest
  exact levelRead

/-- The capitals of what is given for the level are its name. -/
theorem readConfig_level {sections : Fields} {c : Config} {v : Value}
    (valid : readConfig sections = .valid c) (given : givenLevel? sections = some v) :
    ∃ s, textValue v = .valid s ∧ String.ofList (upper s.toList) = c.logging.level.name := by
  have loggingRead := readConfig_logging valid
  unfold givenLevel? at given
  unfold Fields.read at loggingRead
  split at given
  · next fields found =>
    rw [found] at loggingRead
    have levelRead := readLogging_level (Checked.under_valid loggingRead)
    unfold Fields.read at levelRead
    rw [given] at levelRead
    exact levelValue_valid (Checked.under_valid levelRead)
  · cases given

def naming (s : String) : Fields := [(.text "logging", .map [(.text "level", .text s)])]

theorem readConfig_naming {s : String} {l : Level}
    (named : String.ofList (upper s.toList) = l.name) :
    readConfig (naming s) = .valid { logging := { level := l } } := by
  have level : levelValue (.text s) = .valid l := by
    unfold levelValue textValue Checked.bind
    simp only [ofName?_iff.mpr named]
  unfold readConfig naming
  simp only [Fields.read_here, Fields.read_there, ne_eq, String.reduceEq, not_false_eq_true,
    readSection, readLogging, level]
  rfl

/-- Whatever settings are admitted, all that was checked of them holds, and they are in range
exactly if their scale factor is a number. The level is the one whose name are the capitals of what
is given for it, and every text with such capitals is accepted. -/
theorem admitted_inRange_iff {c : Config} (admitted : c.IsAdmitted) :
    (c.Sound ∧ (c.InRange ↔ c.classifier.scaleFactor.isNaN = false)) ∧
    (∀ (sections : Fields) (v : Value), readConfig sections = .valid c →
      givenLevel? sections = some v →
      ∃ s, textValue v = .valid s ∧ String.ofList (upper s.toList) = c.logging.level.name) ∧
    ∀ (s : String) (l : Level), String.ofList (upper s.toList) = l.name →
      ∃ d, readConfig (naming s) = .valid d ∧ d.logging.level = l := by
  have sound := (isRead_of_admitted admitted).sound
  refine ⟨⟨sound, sound.inRange_iff⟩, fun sections v => readConfig_level, fun s l named => ?_⟩
  exact ⟨_, readConfig_naming named, rfl⟩

theorem admitted_inRange_dotless :
    let c : Config := { logging := { level := .info } }
    c.IsAdmitted ∧ c.InRange ∧ readConfig (naming "\u0131nfo") = .valid c ∧
      String.ofList (upper "\u0131nfo".toList) = "INFO" := by
  intro c
  have named : String.ofList (upper "\u0131nfo".toList) = Level.info.name := by decide +kernel
  have valid : readConfig (naming "\u0131nfo") = .valid c := readConfig_naming named
  have admitted : c.IsAdmitted := .inl ⟨_, valid⟩
  obtain ⟨⟨-, bounds⟩, given, -⟩ := admitted_inRange_iff admitted
  have inRange := bounds.mpr (by decide +kernel)
  obtain ⟨s, isText, capitals⟩ := given _ (.text "\u0131nfo") valid rfl
  cases isText
  exact ⟨admitted, inRange, valid, capitals⟩

def numberless : Fields := [(.text "classifier", .map [(.text "scale_factor", .float notANumber)])]

def numberlessText : String := "classifier: {scale_factor: .nan}\n"

/-- A scale factor that is no number is admitted, as data and in the text of a file, and it is not
above one. -/
theorem numberless_admitted :
    (∃ c, readConfig numberless = .valid c ∧ ¬1.0 < c.classifier.scaleFactor) ∧
      ∃ c, ofText numberlessText = .ok c ∧ ¬1.0 < c.classifier.scaleFactor := by
  constructor
  · exact ⟨{ classifier := { scaleFactor := notANumber } }, rfl, by decide +kernel⟩
  · have low : (ofText numberlessText).toOption.any
        (fun c => !decide (1.0 < c.classifier.scaleFactor)) = true := by decide +kernel
    cases loads : ofText numberlessText with
    | error fault =>
        rw [loads] at low
        cases low
    | ok c =>
        rw [loads] at low
        exact ⟨c, rfl, of_decide_eq_false (Bool.eq_false_of_not_eq_true' low)⟩

end Settings

end HatReel
