import HatReel.Command.Line
import Mathlib.Data.List.Forall2
import Mathlib.Data.List.TakeWhile

/-! Command lines that are made of options and other words.

An option may be spelled in full, with its value in the next word or behind an equals sign, or by
its letter, with its value in the next word or right behind the letter. A line is read word by word;
the induction goes along with what the line is made of. -/

namespace HatReel.Command

/-- A full name of an option: two dashes and something behind them, without an equals sign. -/
def IsLong (name : List Char) : Prop := name.take 2 = ['-', '-'] ∧ 2 < name.length ∧ '=' ∉ name

instance (name : List Char) : Decidable (IsLong name) := inferInstanceAs (Decidable (_ ∧ _ ∧ _))

/-- The options of a grammar can be told from other words, and from one another. -/
structure Grammar.IsPlain (g : Grammar) : Prop where
  free : g.isFree = true
  long : ∀ s ∈ g.switches, IsLong s.name.toList
  named : ∀ s ∈ g.switches, g.switch? s.name = some s
  lettered : ∀ s ∈ g.switches, ∀ c, s.letter = some c → c ≠ '-' ∧ g.letter? c = some s

/-- The words that an option of a grammar is spelled with, and its value if it takes one. -/
inductive Spells (g : Grammar) (s : Switch) : List String → Option String → Prop where
  | spaced (takes : s.kind.takesValue = true) (value : String) :
      Spells g s [s.name, value] (some value)
  | joined (takes : s.kind.takesValue = true) (value : String) :
      Spells g s [s.name ++ "=" ++ value] (some value)
  | letter (takes : s.kind.takesValue = true) (c : Char) (has : s.letter = some c)
      (value : String) : Spells g s ["-" ++ c.toString, value] (some value)
  | attached (takes : s.kind.takesValue = true) (c : Char) (has : s.letter = some c)
      (value : String) (filled : value ≠ "") :
      Spells g s ["-" ++ c.toString ++ value] (some value)
  | flag (bare : s.kind.takesValue = false) : Spells g s [s.name] none

section

variable {g : Grammar} {s : Switch}

theorem takeWhile_name {name : List Char} (clean : '=' ∉ name) :
    name.takeWhile (· != '=') = name ∧ name.dropWhile (· != '=') = [] := by
  have all : ∀ c ∈ name, (c != '=') = true := by
    intro c inside
    exact bne_iff_ne.mpr fun same => clean (same ▸ inside)
  exact ⟨List.takeWhile_eq_self_iff.mpr all, List.dropWhile_eq_nil_iff.mpr all⟩

theorem takeWhile_joined {name : List Char} (clean : '=' ∉ name) (value : List Char) :
    (name ++ '=' :: value).takeWhile (· != '=') = name ∧
      (name ++ '=' :: value).dropWhile (· != '=') = '=' :: value := by
  have all : ∀ c ∈ name, (c != '=') = true := by
    intro c inside
    exact bne_iff_ne.mpr fun same => clean (same ▸ inside)
  rw [List.takeWhile_append_of_pos all, List.dropWhile_append_of_pos all]
  simp

theorem readSwitch_spaced (plain : g.IsPlain) (inside : s ∈ g.switches)
    (takes : s.kind.takesValue = true) (value : String) (rest : List String) :
    readSwitch g s.name.toList (value :: rest) = .ok ([(s, some value)], rest) := by
  obtain ⟨taken, dropped⟩ := takeWhile_name (plain.long s inside).2.2
  unfold readSwitch
  simp only [taken, dropped, String.ofList_toList, plain.named s inside, takes]
  rfl

theorem readSwitch_joined (plain : g.IsPlain) (inside : s ∈ g.switches)
    (takes : s.kind.takesValue = true) (value : String) (rest : List String) :
    readSwitch g (s.name ++ "=" ++ value).toList rest = .ok ([(s, some value)], rest) := by
  have parts : (s.name ++ "=" ++ value).toList = s.name.toList ++ '=' :: value.toList := by
    simp
  obtain ⟨taken, dropped⟩ := takeWhile_joined (plain.long s inside).2.2 value.toList
  unfold readSwitch
  simp only [parts, taken, dropped, String.ofList_toList, plain.named s inside, takes,
    List.tail?_cons, Option.map_some]
  rfl

theorem readSwitch_flag (plain : g.IsPlain) (inside : s ∈ g.switches)
    (bare : s.kind.takesValue = false) (rest : List String) :
    readSwitch g s.name.toList rest = .ok ([(s, none)], rest) := by
  obtain ⟨taken, dropped⟩ := takeWhile_name (plain.long s inside).2.2
  unfold readSwitch
  simp only [taken, dropped, String.ofList_toList, plain.named s inside, bare]
  rfl

theorem readSwitch_letters (plain : g.IsPlain) {c : Char} (single : c ≠ '-') (more : List Char)
    (rest : List String) :
    readSwitch g ('-' :: c :: more) rest = readLetters g rest (c :: more) := by
  have unnamed : g.switch? (String.ofList (('-' :: c :: more).takeWhile (· != '='))) = none := by
    apply List.find?_eq_none.mpr
    intro s inside same
    have long := (plain.long s inside).1
    rw [eq_of_beq same, String.toList_ofList] at long
    by_cases equals : c = '='
    · simp [equals] at long
    · simp [equals] at long
      exact single long
  have short : (('-' :: c :: more).take 2 == ['-', '-']) = false := by
    simp [single]
  unfold readSwitch
  simp only [unnamed, short]
  rfl

theorem isSwitchWord_long {word : String} (dashes : word.toList.take 2 = ['-', '-'])
    (more : 2 < word.toList.length) :
    (word == "--") = false ∧ isSwitchWord word.toList = true := by
  constructor
  · rw [beq_eq_false_iff_ne]
    rintro rfl
    exact absurd more (by decide)
  · generalize word.toList = letters at dashes more
    unfold isSwitchWord
    rcases letters with _ | ⟨c, cs⟩
    · cases dashes
    · have first : c = '-' := (List.cons.inj dashes).1
      rw [first] at more ⊢
      simp only [List.head?_cons, beq_self_eq_true, Bool.true_and, decide_eq_true_eq]
      omega

theorem isSwitchWord_letter {word : String} {c : Char} {more : List Char} (single : c ≠ '-')
    (parts : word.toList = '-' :: c :: more) :
    (word == "--") = false ∧ isSwitchWord word.toList = true := by
  constructor
  · rw [beq_eq_false_iff_ne]
    rintro rfl
    exact single (List.cons.inj (List.cons.inj parts).2).1.symm
  · rw [parts]
    simp [isSwitchWord]

/-- An option that is spelled in some way is read as such, and what follows it is left. -/
theorem readSwitch_spells (plain : g.IsPlain) (inside : s ∈ g.switches) {words : List String}
    {raw : Option String} (spells : Spells g s words raw) :
    ∃ word more, words = word :: more ∧ (word == "--") = false ∧ isSwitchWord word.toList = true ∧
      ∀ rest, readSwitch g word.toList (more ++ rest) = .ok ([(s, raw)], rest) := by
  have long := plain.long s inside
  cases spells with
  | spaced takes value =>
      obtain ⟨other, isSwitch⟩ := isSwitchWord_long long.1 long.2.1
      exact ⟨s.name, [value], rfl, other, isSwitch, readSwitch_spaced plain inside takes value⟩
  | joined takes value =>
      have parts : (s.name ++ "=" ++ value).toList = s.name.toList ++ '=' :: value.toList := by simp
      obtain ⟨other, isSwitch⟩ : (s.name ++ "=" ++ value == "--") = false ∧
          isSwitchWord (s.name ++ "=" ++ value).toList = true := by
        apply isSwitchWord_long
        · rw [parts, List.take_append_of_le_length (Nat.le_of_lt long.2.1)]
          exact long.1
        · rw [parts, List.length_append]
          exact Nat.lt_add_right _ long.2.1
      exact ⟨_, [], rfl, other, isSwitch, readSwitch_joined plain inside takes value⟩
  | letter takes c has value =>
      obtain ⟨single, letter⟩ := plain.lettered s inside c has
      have parts : ("-" ++ c.toString).toList = ['-', c] := by simp
      obtain ⟨other, isSwitch⟩ := isSwitchWord_letter single parts
      refine ⟨_, [value], rfl, other, isSwitch, fun rest => ?_⟩
      rw [parts, readSwitch_letters plain single]
      simp only [readLetters, letter, takes]
      rfl
  | attached takes c has value filled =>
      obtain ⟨single, letter⟩ := plain.lettered s inside c has
      have parts : ("-" ++ c.toString ++ value).toList = '-' :: c :: value.toList := by simp
      obtain ⟨other, isSwitch⟩ := isSwitchWord_letter single parts
      have filled : value.toList.isEmpty = false := by
        rw [List.isEmpty_eq_false_iff]
        exact fun empty => filled (String.toList_eq_nil_iff.mp empty)
      refine ⟨_, [], rfl, other, isSwitch, fun rest => ?_⟩
      rw [parts, readSwitch_letters plain single]
      simp only [readLetters, letter, takes, filled, String.ofList_toList]
      rfl
  | flag bare =>
      obtain ⟨other, isSwitch⟩ := isSwitchWord_long long.1 long.2.1
      exact ⟨s.name, [], rfl, other, isSwitch, readSwitch_flag plain inside bare⟩

end

inductive Item where
  | option (s : Switch) (raw : Option String)
  | word (text : String)

def Item.option? : Item → Option (Switch × Option String)
  | .option s raw => some (s, raw)
  | .word _ => none

def Item.word? : Item → Option String
  | .option .. => none
  | .word text => some text

/-- A command line spells the items in their order. After two dashes there are no options. -/
inductive Spelled (g : Grammar) : List String → List Item → Prop where
  | nil : Spelled g [] []
  | option {s : Switch} {words line : List String} {raw : Option String} {items : List Item}
      (inside : s ∈ g.switches) (spells : Spells g s words raw) (rest : Spelled g line items) :
      Spelled g (words ++ line) (.option s raw :: items)
  | word {text : String} {line : List String} {items : List Item}
      (other : isSwitchWord text.toList = false) (rest : Spelled g line items) :
      Spelled g (text :: line) (.word text :: items)
  | words (texts : List String) : Spelled g ("--" :: texts) (texts.map .word)

/-- A command line is read as the items that it spells. -/
theorem readWords_spelled {g : Grammar} (plain : g.IsPlain) {line : List String}
    {items : List Item} (spelled : Spelled g line items) {fuel : Nat}
    (enough : line.length ≤ fuel) :
    readWords g fuel line = .ok ⟨items.filterMap Item.option?, items.filterMap Item.word?⟩ := by
  induction spelled generalizing fuel with
  | nil => cases fuel <;> rfl
  | @option s words line raw items inside spells rest ih =>
      obtain ⟨word, more, rfl, other, isSwitch, reads⟩ := readSwitch_spells plain inside spells
      cases fuel with
      | zero => cases enough
      | succ fuel =>
          rw [List.length_append, List.length_cons] at enough
          have later := ih (Nat.le_of_succ_le_succ (Nat.le_trans (by omega) enough))
          simp only [List.cons_append, readWords, other, isSwitch, reads]
          change (readWords g fuel line >>= _) = _
          rw [later]
          rfl
  | @word text line items other rest ih =>
      cases fuel with
      | zero => cases enough
      | succ fuel =>
          have single : (text == "--") = false := by
            rw [beq_eq_false_iff_ne]
            rintro rfl
            cases other
          simp only [readWords, single, other, plain.free, ih (Nat.le_of_succ_le_succ enough)]
          rfl
  | words texts =>
      cases fuel with
      | zero => cases enough
      | succ fuel =>
          have others : (texts.map Item.word).filterMap Item.word? = texts := by
            rw [List.filterMap_map]
            exact List.filterMap_some
          have noOptions : (texts.map Item.word).filterMap Item.option? = [] := by
            simp [Item.option?]
          rw [others, noOptions]
          rfl

theorem Spelled.known {g : Grammar} {line : List String} {items : List Item}
    (spelled : Spelled g line items) : ∀ e ∈ items.filterMap Item.option?, e.1 ∈ g.switches := by
  induction spelled with
  | nil => simp
  | option inside _ _ ih =>
      intro e member
      rcases List.mem_cons.mp member with rfl | later
      · exact inside
      · exact ih e later
  | word _ _ ih => exact ih
  | words texts => simp [Item.option?]

def lastGiven (options : List (Switch × Option String)) (s : Switch) : Option (Option String) :=
  (options.filter fun e => e.1 == s).getLast?.map (·.2)

theorem lastValue_given (options : List (Switch × Option String)) (s : Switch) :
    lastValue options s = (lastGiven options s).join := by
  unfold lastValue lastGiven
  cases (options.filter fun e => e.1 == s).getLast? <;> rfl

theorem lastGiven_mem {options : List (Switch × Option String)} {s : Switch} {raw : Option String}
    (last : lastGiven options s = some raw) : (s, raw) ∈ options := by
  obtain ⟨⟨other, value⟩, isLast, rfl⟩ := Option.map_eq_some_iff.mp last
  obtain ⟨there, same⟩ := List.mem_filter.mp (List.mem_of_getLast? isLast)
  obtain rfl : other = s := eq_of_beq same
  exact there

theorem mem_distinct {options : List (Switch × Option String)} {s : Switch} :
    s ∈ distinct options ↔ ∃ raw, lastGiven options s = some raw := by
  unfold distinct
  rw [List.mem_eraseDups, List.mem_map]
  constructor
  · rintro ⟨⟨s, raw⟩, member, rfl⟩
    have member : (s, raw) ∈ options.filter fun e => e.1 == s := by
      rw [List.mem_filter]
      exact ⟨member, beq_self_eq_true s⟩
    obtain ⟨last, isLast⟩ := Option.isSome_iff_exists.mp
      (List.getLast?_isSome.mpr (List.ne_nil_of_mem member))
    exact ⟨last.2, by rw [lastGiven, isLast]; rfl⟩
  · rintro ⟨raw, last⟩
    exact ⟨(s, raw), lastGiven_mem last, rfl⟩

theorem mapM_values {ε α β : Type} {f : α → Except ε β} {l : List α}
    (each : ∀ a ∈ l, ∃ b, f a = .ok b) :
    ∃ bs, l.mapM f = .ok bs ∧ List.Forall₂ (fun a b => f a = .ok b) l bs := by
  induction l with
  | nil => exact ⟨[], rfl, .nil⟩
  | cons a l ih =>
      obtain ⟨b, first⟩ := each a List.mem_cons_self
      obtain ⟨bs, rest, values⟩ := ih fun a' inside => each a' (List.mem_cons_of_mem a inside)
      refine ⟨b :: bs, ?_, .cons first values⟩
      rw [List.mapM_cons, first, rest]
      rfl

/-- The values of options that have different names are found by the names. -/
theorem lookup_values {g : Grammar} (plain : g.IsPlain) {f : Switch → Except UsageFault Given}
    {l : List Switch} {values : List (String × Given)}
    (each : List.Forall₂ (fun s b => (do return (s.name, ← f s)) = Except.ok b) l values)
    (known : ∀ s ∈ l, s ∈ g.switches) {s : Switch} (inside : s ∈ g.switches) :
    values.lookup s.name = if s ∈ l then (f s).toOption else none := by
  induction each with
  | nil => rfl
  | @cons s' b l values first _ ih =>
      have later := ih fun t member => known t (List.mem_cons_of_mem _ member)
      have knownFirst := known s' List.mem_cons_self
      cases result : f s' with
      | error fault =>
          rw [result] at first
          cases first
      | ok value =>
          rw [result] at first
          cases first
          by_cases same : s = s'
          · subst same
            rw [List.lookup_cons_self, if_pos List.mem_cons_self, result]
            rfl
          · have names : (s.name == s'.name) = false := by
              rw [beq_eq_false_iff_ne]
              intro equal
              have one := plain.named s inside
              rw [equal, plain.named s' knownFirst] at one
              exact same (Option.some.inj one).symm
            rw [List.lookup_cons, names, later]
            simp [same]

/-- A command line that spells options with sound values and at most one other word is understood:
each option has the value that was given last. -/
theorem read_spelled {g : Grammar} (plain : g.IsPlain) (hasArgument : g.argument.isSome = true)
    {line : List String} {items : List Item} (spelled : Spelled g line items)
    (calm : ∀ e ∈ items.filterMap Item.option?, e.1.kind.isUrgent = false)
    (sound : ∀ e ∈ items.filterMap Item.option?, ∃ value, e.1.read e.2 = .ok value)
    (few : (items.filterMap Item.word?).length ≤ 1) :
    ∃ values, g.read line = .ok (.given values (items.filterMap Item.word?)) ∧
      ∀ s ∈ g.switches, values.lookup s.name =
        (lastGiven (items.filterMap Item.option?) s).bind fun raw => (s.read raw).toOption := by
  have known := spelled.known
  have words := readWords_spelled plain spelled (Nat.le_refl _)
  generalize items.filterMap Item.option? = options at *
  generalize items.filterMap Item.word? = others at *
  have given : ∀ s ∈ distinct options, s ∈ g.switches ∧ s.kind.isUrgent = false ∧
      ∃ value, s.read (lastValue options s) = .ok value := by
    intro s inside
    obtain ⟨raw, last⟩ := mem_distinct.mp inside
    have member := lastGiven_mem last
    refine ⟨known _ member, calm _ member, ?_⟩
    rw [lastValue_given, last]
    exact sound _ member
  have noneUrgent : (distinct options).find? (fun s => s.kind.isUrgent) = none := by
    rw [List.find?_eq_none]
    intro s inside
    rw [(given s inside).2.1]
    exact Bool.false_ne_true
  obtain ⟨values, reads, each⟩ := mapM_values (l := distinct options)
    (f := fun s => (do return (s.name, ← s.read (lastValue options s)) : Except UsageFault _))
    fun s inside => by
      obtain ⟨value, isValue⟩ := (given s inside).2.2
      exact ⟨(s.name, value), by rw [isValue]; rfl⟩
  refine ⟨values, ?_, ?_⟩
  · have enough : (g.isFree && decide ((if g.argument.isSome then 1 else 0) < others.length)) =
        false := by
      rw [plain.free, hasArgument, if_pos rfl, Bool.true_and, decide_eq_false_iff_not]
      exact Nat.not_lt.mpr few
    unfold Grammar.read
    rw [words]
    simp only [bind, Except.bind, pure, Except.pure] at reads ⊢
    simp only [noneUrgent, reads, enough]
    rfl
  · intro s inside
    rw [lookup_values plain each (fun t member => (given t member).1) inside, lastValue_given]
    cases last : lastGiven options s with
    | none =>
        rw [if_neg]
        · rfl
        · intro member
          obtain ⟨raw, never⟩ := mem_distinct.mp member
          rw [last] at never
          cases never
    | some raw =>
        rw [if_pos (mem_distinct.mpr ⟨raw, last⟩)]
        rfl

end HatReel.Command
