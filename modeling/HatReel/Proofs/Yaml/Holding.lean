import HatReel.Proofs.Yaml.Numbers
import HatReel.Yaml.Meaning

/-! Nodes that hold values.

A node holds a value when its text or what lies below it says the value. Nodes are filled one by
one: a value that is held is still held when other nodes are added or filled. -/

namespace HatReel.Yaml

open HatReel.Document

def named (entry : String × Value) : Value × Value := (.text entry.1, entry.2)

/-- A node that holds a value, when those below it hold its parts. -/
inductive Shape (nodes : Nodes) (inner : Nat → Value → Prop) : Nat → Value → Prop
  | scalar {id : Nat} {tag : Tag} {start : Mark} {s : ScalarText} {v : Value}
      (node : nodes[id]? = some ⟨tag, start, .scalar s⟩) (common : tag.isCommon = true)
      (value : scalarValue tag s start = .ok v) : Shape nodes inner id v
  | items {id : Nat} {start : Mark} {ids : List Nat} {vs : List Value}
      (node : nodes[id]? = some ⟨.seq, start, .sequence ids⟩) (more : ids ≠ [])
      (parts : List.Forall₂ inner ids vs) : Shape nodes inner id (.list vs)
  | entries {id : Nat} {start : Mark} {ids : List (Nat × Nat)} {fields : List (String × Value)}
      (node : nodes[id]? = some ⟨.map, start, .mapping ids⟩)
      (distinct : (fields.map (·.1)).Nodup)
      (parts : List.Forall₂ (fun e f => inner e.1 (.text f.1) ∧ inner e.2 f.2) ids fields) :
      Shape nodes inner id (.map (fields.map named))

def Holds (nodes : Nodes) : Nat → Nat → Value → Prop
  | 0 => fun _ _ => False
  | depth + 1 => Shape nodes (Holds nodes depth)

/-- Nodes that were there are still there, once they have been filled. -/
def Keeps (old new : Nodes) : Prop :=
  ∀ (id : Nat) (node : Node), old[id]? = some node → node.content ≠ .sequence [] →
    new[id]? = some node

theorem Shape.mono {old new : Nodes} {inner inner' : Nat → Value → Prop} (keeps : Keeps old new)
    (goesOn : ∀ id v, inner id v → inner' id v) {id : Nat} {v : Value}
    (shape : Shape old inner id v) :
    Shape new inner' id v := by
  cases shape with
  | scalar node common value => exact .scalar (keeps _ _ node (by simp)) common value
  | items node more parts =>
      exact .items (keeps _ _ node (by simpa using more)) more (parts.imp goesOn)
  | entries node distinct parts =>
      exact .entries (keeps _ _ node (by simp)) distinct
        (parts.imp fun e f held => ⟨goesOn _ _ held.1, goesOn _ _ held.2⟩)

theorem Holds.mono {old new : Nodes} (keeps : Keeps old new) {depth : Nat} :
    ∀ {id : Nat} {v : Value}, Holds old depth id v → Holds new depth id v := by
  induction depth with
  | zero => exact fun held => held
  | succ depth ih => exact fun held => Shape.mono keeps (fun _ _ => ih) held

def Grows (old new : Nodes) : Prop :=
  ∀ (id : Nat) (node : Node), old[id]? = some node → new[id]? = some node

namespace Grows

theorem refl (nodes : Nodes) : Grows nodes nodes := fun _ _ here => here

theorem trans {first second third : Nodes} (begins : Grows first second)
    (goesOn : Grows second third) : Grows first third :=
  fun id node here => goesOn id node (begins id node here)

theorem keeps {old new : Nodes} (grows : Grows old new) : Keeps old new :=
  fun id node here _ => grows id node here

theorem push (nodes : Nodes) (node : Node) : Grows nodes (nodes.push node) := by
  intro id other here
  have inside : id < nodes.size := (Array.getElem?_eq_some_iff.mp here).1
  rw [Array.getElem?_push, if_neg (Nat.ne_of_lt inside), here]

end Grows

theorem getElem?_setContent (nodes : Nodes) (id other : Nat) (content : Content) :
    (nodes.setContent id content)[other]? =
      if id = other then nodes[other]?.map fun node => { node with content } else
        nodes[other]? := by
  unfold Nodes.setContent
  exact Array.getElem?_modify

/-- A node that is added before what lies below it, and filled after it. -/
theorem filled_later {nodes later : Nodes} {tag : Tag} {start : Mark}
    (grows : Grows (nodes.push ⟨tag, start, .sequence []⟩) later) (content : Content) :
    Grows nodes (later.setContent nodes.size content) ∧
      Keeps later (later.setContent nodes.size content) ∧
      (later.setContent nodes.size content)[nodes.size]? = some ⟨tag, start, content⟩ := by
  have here : later[nodes.size]? = some ⟨tag, start, .sequence []⟩ := by
    apply grows
    rw [Array.getElem?_push, if_pos rfl]
  refine ⟨?_, ?_, ?_⟩
  · intro id node before
    have inside : id < nodes.size := (Array.getElem?_eq_some_iff.mp before).1
    rw [getElem?_setContent, if_neg (Nat.ne_of_gt inside)]
    exact grows _ _ (Grows.push _ _ _ _ before)
  · intro id node before later
    rw [getElem?_setContent, if_neg ?_]
    · exact before
    · rintro rfl
      rw [here] at before
      cases before
      exact later rfl
  · rw [getElem?_setContent, if_pos rfl, here]
    rfl

/-- A text that says a value where it stands without a tag. -/
structure Means (s : ScalarText) (v : Value) : Prop where
  common : (scalarTag none s).isCommon = true
  value : ∀ place, scalarValue (scalarTag none s) s place = .ok v

theorem holds_scalar {s : ScalarText} {v : Value} (means : Means s v) (nodes : Nodes) (start : Mark)
    (depth : Nat) :
    Holds (nodes.push ⟨scalarTag none s, start, .scalar s⟩) (depth + 1) nodes.size v :=
  .scalar (by rw [Array.getElem?_push, if_pos rfl]) means.common (means.value start)

theorem means_word {cs : List Char} {v : Value} (word : Says cs v) : Means ⟨cs, true, false⟩ v :=
  ⟨word.common, word.value⟩

end HatReel.Yaml
