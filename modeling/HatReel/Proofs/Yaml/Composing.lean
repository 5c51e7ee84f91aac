import HatReel.Proofs.Yaml.Holding
import HatReel.Proofs.Yaml.Sheet

/-! Nodes of sheets.

Reading goes from token to token: what reads the tokens of a field, wherever they come next, and
adds nodes that hold its value can be put together to what reads a section, and a sheet. A
collection is added before what lies in it and filled after it. -/

namespace HatReel.Yaml

open HatReel.Document

namespace Read

variable {α β : Type}

theorem bind_of_ok {x : Read α} {f : α → Read β} {s t : Reading} {a : α}
    (step : x s = .ok (a, t)) : (x >>= f) s = f a t := by
  change (x s >>= fun p => f p.1 p.2) = f a t
  rw [step]
  rfl

def leaving (s : Reading) (rest : List Token) (nodes : Nodes) : Reading :=
  { s with tokens := { s.tokens with list := rest }, nodes := nodes }

theorem leaving_leaving (s : Reading) (rest last : List Token) (nodes more : Nodes) :
    leaving (leaving s rest nodes) last more = leaving s last more := rfl

theorem peek_cons {s : Reading} {t : Token} {rest : List Token} (here : s.tokens.list = t :: rest) :
    peek s = .ok (t, s) := by
  unfold peek
  refine (bind_of_ok (a := s) (s := s) (t := s) rfl).trans ?_
  simp only [here]
  rfl

theorem skip_cons {s : Reading} {t : Token} {rest : List Token} (here : s.tokens.list = t :: rest) :
    skip s = .ok ((), leaving s rest s.nodes) := by
  have isTail : s.tokens.list.tail = rest := by rw [here, List.tail_cons]
  change Except.ok ((), leaving s s.tokens.list.tail s.nodes) = _
  rw [isTail]

/-- Wherever tokens of these kinds come next, and what comes after them is as it should be, a step
reads them, adds nodes and gives a result of which `P` holds. -/
def Reads (x : Read α) (kinds : List TokenKind) (ahead : List TokenKind → Prop)
    (P : Nodes → α → Prop) : Prop :=
  ∀ (s : Reading) (ts rest : List Token), s.tokens.list = ts ++ rest → ts.map (·.kind) = kinds →
    ahead (rest.map (·.kind)) →
      ∃ a nodes, x s = .ok (a, leaving s rest nodes) ∧ Grows s.nodes nodes ∧ P nodes a

section

variable {x : Read α} {f : α → Read β} {k : TokenKind} {ks more : List TokenKind}
  {ahead between : List TokenKind → Prop} {P : Nodes → α → Prop}

theorem reads_pure {a : α} (holds : ∀ nodes, P nodes a) : Reads (pure a) [] ahead P := by
  intro s ts rest here kinds _
  cases List.map_eq_nil_iff.mp kinds
  refine ⟨a, s.nodes, ?_, Grows.refl _, holds _⟩
  have same : s = leaving s rest s.nodes := by
    rw [List.nil_append] at here
    rw [leaving, ← here]
  exact congrArg (fun s => Except.ok (a, s)) same

theorem reads_peek {f : Token → Read β} {Q : Nodes → β → Prop}
    (goesOn : ∀ t, t.kind = k → Reads (f t) (k :: ks) ahead Q) :
    Reads (peek >>= f) (k :: ks) ahead Q := by
  intro s ts rest here kinds next
  obtain ⟨t, others, rfl, isKind, -⟩ := List.map_eq_cons_iff.mp kinds
  rw [bind_of_ok (peek_cons here)]
  exact goesOn t isKind s _ rest here kinds next

theorem reads_skip {f : Unit → Read β} {Q : Nodes → β → Prop}
    (reads : Reads (f ()) ks ahead Q) :
    Reads (skip >>= f) (k :: ks) ahead Q := by
  intro s ts rest here kinds next
  obtain ⟨t, others, rfl, -, isOthers⟩ := List.map_eq_cons_iff.mp kinds
  rw [bind_of_ok (skip_cons here)]
  exact reads (leaving s (others ++ rest) s.nodes) others rest rfl isOthers next

/-- One step after the other: what holds after the first one is carried along as nodes are added. -/
theorem reads_bind {Q : α → Nodes → β → Prop} {R : Nodes → β → Prop}
    (first : Reads x ks between P)
    (goesOn : ∀ after, ahead after → between (more ++ after))
    (second : ∀ a, Reads (f a) more ahead (Q a))
    (both : ∀ {old new : Nodes} {a : α} {b : β}, P old a → Grows old new → Q a new b → R new b) :
    Reads (x >>= f) (ks ++ more) ahead R := by
  intro s ts rest here kinds next
  obtain ⟨front, back, rfl, isFront, isBack⟩ := List.map_eq_append_iff.mp kinds
  rw [List.append_assoc] at here
  have ahead' : between ((back ++ rest).map (·.kind)) := by
    rw [List.map_append, isBack]
    exact goesOn _ next
  obtain ⟨a, nodes, step, grows, held⟩ := first s front (back ++ rest) here isFront ahead'
  obtain ⟨b, later, step', grows', held'⟩ :=
    second a (leaving s (back ++ rest) nodes) back rest rfl isBack next
  exact ⟨b, later, by rw [bind_of_ok step, step', leaving_leaving], grows.trans grows',
    both held grows' held'⟩

theorem reads_return {g : α → β} {R : Nodes → β → Prop} (reads : Reads x ks ahead P)
    (result : ∀ {nodes : Nodes} {a : α}, P nodes a → R nodes (g a)) :
    Reads (x >>= fun a => pure (g a)) ks ahead R := by
  intro s ts rest here kinds next
  obtain ⟨a, nodes, step, grows, held⟩ := reads s ts rest here kinds next
  exact ⟨g a, nodes, by rw [bind_of_ok step]; rfl, grows, result held⟩

theorem reads_unless {absent : TokenKind → Bool} {place : Mark} {node : Read Nat}
    {P : Nodes → Nat → Prop} (reads : Reads node (k :: ks) ahead P) (present : absent k = false) :
    Reads (nodeUnless absent place node) (k :: ks) ahead P := by
  refine reads_peek fun t isKind => ?_
  rw [isKind, present]
  exact reads

theorem reads_value {absent : TokenKind → Bool} {node : Read Nat} {P : Nodes → Nat → Prop}
    (reads : Reads node (k :: ks) ahead P) (present : absent k = false) :
    Reads (valueUnless absent node) (.value :: k :: ks) ahead P := by
  refine reads_peek fun t isKind => ?_
  simp only [isKind]
  exact reads_skip (reads_unless reads present)

end

def isBare : TokenKind → Bool
  | .alias _ | .anchor _ | .tag .. => false
  | _ => true

theorem properties_bare {s : Reading} {t : Token} {rest : List Token}
    (here : s.tokens.list = t :: rest) (bare : isBare t.kind = true) :
    properties s = .ok ({}, s) := by
  have noAnchor (p : Properties) : anchorProperty p s = .ok (p, s) := by
    unfold anchorProperty
    rw [bind_of_ok (peek_cons here)]
    cases kind : t.kind <;> first | rfl | (rw [kind] at bare; cases bare)
  have noTag (p : Properties) : tagProperty p s = .ok (p, s) := by
    unfold tagProperty
    rw [bind_of_ok (peek_cons here)]
    cases kind : t.kind <;> first | rfl | (rw [kind] at bare; cases bare)
  unfold properties
  rw [bind_of_ok (noAnchor {})]
  exact bind_of_ok (noTag {})

theorem reads_scalar {text : ScalarText} {v : Value} (means : Means text v) (fuel depth : Nat)
    (position : Position) (ahead : List TokenKind → Prop) :
    Reads (node (fuel + 1) position) [.scalar text] ahead
      fun nodes id => Holds nodes (depth + 1) id v := by
  intro s ts rest here kinds _
  obtain ⟨t, rfl, isKind⟩ := List.map_eq_singleton_iff.mp kinds
  have bare : isBare t.kind = true := by rw [isKind]; rfl
  refine ⟨s.nodes.size, s.nodes.push ⟨scalarTag none text, t.start, .scalar text⟩, ?_,
    Grows.push _ _, holds_scalar means s.nodes t.start depth⟩
  unfold node
  rw [bind_of_ok (peek_cons here)]
  simp only [isKind]
  rw [bind_of_ok (properties_bare here bare), bind_of_ok (t := s) (a := none) rfl,
    bind_of_ok (peek_cons here)]
  simp only [isKind]
  rw [bind_of_ok (skip_cons here)]
  rfl

/-- A collection is there with its content once that has been read. -/
theorem reads_collect {tag : Tag} {start : Mark} {read : Nat → Read Content}
    {ks : List TokenKind} {ahead : List TokenKind → Prop} {Q : Nodes → Content → Prop}
    {R : Nodes → Nat → Prop} (contents : ∀ n, ks.length < n → Reads (read n) ks ahead Q)
    (held : ∀ {old new : Nodes} {id : Nat} {content : Content}, Q old content → Keeps old new →
      new[id]? = some ⟨tag, start, content⟩ → R new id) :
    Reads (collect none tag start read) ks ahead R := by
  intro s ts rest here kinds next
  have enough : ks.length < s.tokens.list.length + 1 := by
    rw [here, List.length_append, ← kinds, List.length_map]
    omega
  obtain ⟨content, later, step, grows, inner⟩ :=
    contents _ enough (leaving s s.tokens.list (s.nodes.push ⟨tag, start, .sequence []⟩)) ts rest
      here kinds next
  obtain ⟨grows', keeps, filled⟩ := filled_later grows content
  refine ⟨s.nodes.size, later.setContent s.nodes.size content, ?_, grows', held inner keeps filled⟩
  unfold collect
  rw [bind_of_ok (a := s.nodes.size)
    (t := leaving s s.tokens.list (s.nodes.push ⟨tag, start, .sequence []⟩)) rfl]
  refine (bind_of_ok (t := leaving s s.tokens.list (s.nodes.push ⟨tag, start, .sequence []⟩))
    (a := leaving s s.tokens.list (s.nodes.push ⟨tag, start, .sequence []⟩)) rfl).trans ?_
  refine (bind_of_ok step).trans ?_
  rfl

inductive EndsValue : List TokenKind → Prop
  | key (more : List TokenKind) : EndsValue (.key :: more)
  | blockEnd (more : List TokenKind) : EndsValue (.blockEnd :: more)

theorem EndsValue.first {ts : List Token} (ends : EndsValue (ts.map (·.kind))) :
    ∃ t more, ts = t :: more ∧ (t.kind = .key ∨ t.kind = .blockEnd) := by
  cases ts with
  | nil => cases ends
  | cons t more =>
      refine ⟨t, more, rfl, ?_⟩
      generalize isFirst : t.kind = k at ends
      rw [List.map_cons, isFirst] at ends
      cases ends with
      | key => exact .inl rfl
      | blockEnd => exact .inr rfl

theorem reads_noItems (node : Read Nat) (n : Nat) (P : Nodes → List Nat → Prop)
    (holds : ∀ nodes, P nodes []) : Reads (flatItems node (n + 1)) [] EndsValue P := by
  intro s ts rest here kinds next
  cases List.map_eq_nil_iff.mp kinds
  obtain ⟨t, more, rfl, isEnd⟩ := next.first
  have same : leaving s (t :: more) s.nodes = s := by
    rw [List.nil_append] at here
    rw [leaving, ← here]
  refine ⟨[], s.nodes, ?_, Grows.refl _, holds _⟩
  rw [same]
  unfold flatItems
  rw [bind_of_ok (peek_cons here)]
  rcases isEnd with isEnd | isEnd <;> rw [isEnd] <;> rfl

theorem reads_items {fuel depth : Nat} {ws : List (List Char)} {vs : List Value}
    (means : List.Forall₂ (fun w v => Means ⟨w, true, false⟩ v) ws vs) {n : Nat}
    (enough : ws.length < n) :
    Reads (flatItems (node (fuel + 1) .block) n) (ws.flatMap itemKinds) EndsValue
      fun nodes ids => List.Forall₂ (Holds nodes (depth + 1)) ids vs := by
  induction means generalizing n with
  | nil =>
      obtain ⟨m, rfl⟩ := Nat.exists_eq_add_one.mpr (Nat.zero_lt_of_lt enough)
      exact reads_noItems _ m _ fun nodes => .nil
  | @cons w v ws vs first others ih =>
      obtain ⟨m, rfl⟩ := Nat.exists_eq_add_one.mpr (Nat.zero_lt_of_lt enough)
      unfold flatItems
      refine reads_peek fun t isKind => ?_
      simp only [isKind]
      refine reads_skip ?_
      have item := reads_scalar first fuel depth .block fun _ => True
      have rest := @ih m (by rw [List.length_cons] at enough; omega)
      refine reads_bind (reads_unless item rfl) (fun _ _ => trivial) (fun id => reads_return
        (R := fun nodes ids => ∃ more, ids = id :: more ∧
          List.Forall₂ (Holds nodes (depth + 1)) more vs) rest fun held => ⟨_, rfl, held⟩) ?_
      rintro old new id ids held grows ⟨more, rfl, inner⟩
      exact .cons (held.mono grows.keeps) inner

theorem length_le_flatMap {α β : Type} {f : α → List β} (more : ∀ a, f a ≠ []) (as : List α) :
    as.length ≤ (as.flatMap f).length := by
  induction as with
  | nil => exact Nat.le_refl 0
  | cons a as ih =>
      have one : 0 < (f a).length := List.length_pos_of_ne_nil (more a)
      rw [List.flatMap_cons, List.length_append, List.length_cons]
      omega

theorem reads_list {fuel depth : Nat} {ws : List (List Char)} {vs : List Value} (more : ws ≠ [])
    (means : List.Forall₂ (fun w v => Means ⟨w, true, false⟩ v) ws vs) :
    Reads (node (fuel + 2) .blockOrFlat) (ws.flatMap itemKinds) EndsValue
      fun nodes id => Holds nodes (depth + 2) id (.list vs) := by
  intro s ts rest here kinds next
  obtain ⟨w, others, rfl⟩ := List.exists_cons_of_ne_nil more
  obtain ⟨t, behind, rfl, isKind, -⟩ := List.map_eq_cons_iff.mp kinds
  have bare : isBare t.kind = true := by rw [isKind]; rfl
  have isNode : node (fuel + 2) .blockOrFlat s = collect none .seq t.start
      (fun n => .sequence <$> flatItems (node (fuel + 1) .block) n) s := by
    rw [node, bind_of_ok (peek_cons here)]
    simp only [isKind]
    rw [bind_of_ok (properties_bare here bare), bind_of_ok (t := s) (a := none) rfl,
      bind_of_ok (peek_cons here)]
    simp only [isKind]
    rfl
  rw [isNode]
  refine reads_collect (Q := fun nodes content => ∃ ids, content = .sequence ids ∧
    List.Forall₂ (Holds nodes (depth + 1)) ids vs) ?_ ?_ s _ rest here kinds next
  · intro n enough
    have few := length_le_flatMap (f := itemKinds) (fun w => List.cons_ne_nil _ _) (w :: others)
    exact reads_return (reads_items means (Nat.lt_of_le_of_lt few enough)) fun held =>
      ⟨_, rfl, held⟩
  · rintro old new id content ⟨ids, rfl, held⟩ keeps filled
    refine .items filled ?_ (held.imp fun id v inner => inner.mono keeps)
    rintro rfl
    cases held
    cases means

/-- The kinds of tokens of entries with these names and values, up to the end of their block. -/
def linesKinds (lines : List (List Char × List TokenKind)) : List TokenKind :=
  lines.flatMap (fun l => entryKinds l.1 l.2) ++ [.blockEnd]

theorem endsValue_lines (lines : List (List Char × List TokenKind)) (after : List TokenKind) :
    EndsValue (linesKinds lines ++ after) := by
  cases lines with
  | nil => exact .blockEnd after
  | cons line lines => exact .key _

def isAbsent (k : TokenKind) : Bool := k == .key || k == .value || k == .blockEnd

/-- An entry that can be read: its key is a name, and its value has tokens of its own. -/
structure IsEntry (node : Read Nat) (depth : Nat) (line : List Char × List TokenKind)
    (entry : String × Value) : Prop where
  name : Means ⟨line.1, true, false⟩ (.text entry.1)
  present : ∃ k ks, line.2 = k :: ks ∧ isAbsent k = false
  value : Reads node line.2 EndsValue fun nodes id => Holds nodes depth id entry.2

theorem reads_pairs {fuel depth : Nat} {lines : List (List Char × List TokenKind)}
    {fields : List (String × Value)} (ahead : List TokenKind → Prop)
    (entries : List.Forall₂ (IsEntry (node (fuel + 1) .blockOrFlat) (depth + 1)) lines fields)
    {n : Nat} (enough : lines.length < n) :
    Reads (blockPairs (node (fuel + 1) .blockOrFlat) n) (linesKinds lines) ahead
      fun nodes ids => List.Forall₂ (fun e f => Holds nodes (depth + 1) e.1 (.text f.1) ∧
        Holds nodes (depth + 1) e.2 f.2) ids fields := by
  induction entries generalizing n with
  | nil =>
      obtain ⟨m, rfl⟩ := Nat.exists_eq_add_one.mpr (Nat.zero_lt_of_lt enough)
      unfold blockPairs
      refine reads_peek fun t isKind => ?_
      simp only [isKind]
      exact reads_skip (reads_pure fun nodes => .nil)
  | @cons line field lines fields first others ih =>
      obtain ⟨m, rfl⟩ := Nat.exists_eq_add_one.mpr (Nat.zero_lt_of_lt enough)
      obtain ⟨k, ks, isKinds, present⟩ := first.present
      have value := first.value
      rw [isKinds] at value
      have isLines : linesKinds (line :: lines) = .key :: ([.scalar ⟨line.1, true, false⟩] ++
          ((.value :: k :: ks) ++ linesKinds lines)) := by
        simp [linesKinds, entryKinds, isKinds]
      rw [isLines]
      unfold blockPairs
      refine reads_peek fun t isKind => ?_
      simp only [isKind]
      refine reads_skip ?_
      have key := reads_scalar first.name fuel depth .blockOrFlat fun _ => True
      have rest := @ih m (by rw [List.length_cons] at enough; omega)
      refine reads_bind (reads_unless key rfl) (fun _ _ => trivial)
        (fun id => reads_bind (reads_value value present)
          (fun after _ => endsValue_lines lines after)
          (fun id' => reads_return (R := fun nodes ids => ∃ more, ids = (id, id') :: more ∧
            List.Forall₂ (fun e f => Holds nodes (depth + 1) e.1 (.text f.1) ∧
              Holds nodes (depth + 1) e.2 f.2) more fields) rest fun held => ⟨_, rfl, held⟩)
          (R := fun nodes ids => ∃ id' more, ids = (id, id') :: more ∧
            Holds nodes (depth + 1) id' field.2 ∧
            List.Forall₂ (fun e f => Holds nodes (depth + 1) e.1 (.text f.1) ∧
              Holds nodes (depth + 1) e.2 f.2) more fields) ?_) ?_
      · rintro old new id' ids held grows ⟨more, rfl, inner⟩
        exact ⟨id', more, rfl, held.mono grows.keeps, inner⟩
      · rintro old new id ids held grows ⟨id', more, rfl, isValue, inner⟩
        exact .cons ⟨held.mono grows.keeps, isValue⟩ inner

theorem reads_mapping {fuel depth : Nat} {position : Position} (inBlock : position ≠ .flow)
    {lines : List (List Char × List TokenKind)} {fields : List (String × Value)}
    (entries : List.Forall₂ (IsEntry (node (fuel + 1) .blockOrFlat) (depth + 1)) lines fields)
    (distinct : (fields.map (·.1)).Nodup) (ahead : List TokenKind → Prop) :
    Reads (node (fuel + 2) position) (.blockMappingStart :: linesKinds lines) ahead
      fun nodes id => Holds nodes (depth + 2) id (.map (fields.map named)) := by
  intro s ts rest here kinds next
  obtain ⟨t, behind, rfl, isKind, -⟩ := List.map_eq_cons_iff.mp kinds
  have bare : isBare t.kind = true := by rw [isKind]; rfl
  have isNode : node (fuel + 2) position s = collect none .map t.start
      (fun n => .mapping <$> (skip *> blockPairs (node (fuel + 1) .blockOrFlat) n)) s := by
    rw [node, bind_of_ok (peek_cons here)]
    simp only [isKind]
    rw [bind_of_ok (properties_bare here bare), bind_of_ok (t := s) (a := none) rfl,
      bind_of_ok (peek_cons here)]
    simp only [isKind, beq_eq_false_iff_ne.mpr inBlock]
    rfl
  rw [isNode]
  refine reads_collect (Q := fun nodes content => ∃ ids, content = .mapping ids ∧
    List.Forall₂ (fun e f => Holds nodes (depth + 1) e.1 (.text f.1) ∧
      Holds nodes (depth + 1) e.2 f.2) ids fields) ?_ ?_ s _ rest here kinds next
  · intro n enough
    have few := length_le_flatMap (f := fun l : List Char × List TokenKind => entryKinds l.1 l.2)
      (fun l => List.cons_ne_nil _ _) lines
    have pairs := @reads_pairs fuel depth lines fields ahead entries n (by
      rw [List.length_cons, linesKinds, List.length_append] at enough
      omega)
    exact reads_return (reads_skip pairs) fun held => ⟨_, rfl, held⟩
  · rintro old new id content ⟨ids, rfl, held⟩ keeps filled
    exact .entries filled distinct
      (held.imp fun e f inner => ⟨inner.1.mono keeps, inner.2.mono keeps⟩)

theorem opening_end {s : Reading} {t : Token} (here : s.tokens.list = [t])
    (isEnd : t.kind = .streamEnd) : opening s = .ok (none, s) := by
  have noEnds : skipDocumentEnds (s.tokens.list.length + 1) s = .ok ((), s) := by
    unfold skipDocumentEnds
    rw [bind_of_ok (peek_cons here), isEnd]
    rfl
  unfold opening
  refine (bind_of_ok (t := s) (a := s) rfl).trans ?_
  rw [bind_of_ok noEnds, bind_of_ok (peek_cons here), isEnd]
  rfl

/-- A document is read that is a mapping in a block. -/
theorem document_reads {s : Reading} {ks : List TokenKind} {P : Nodes → Nat → Prop}
    (kinds : s.tokens.list.map (·.kind) =
      .streamStart :: ((.blockMappingStart :: ks) ++ [.streamEnd]))
    (root : ∀ fuel, ks.length < fuel →
      Reads (node fuel .block) (.blockMappingStart :: ks) (fun _ => True) P) :
    ∃ id t, document s = .ok (some id, t) ∧ P t.nodes id := by
  obtain ⟨start, more, isTokens, -, isMore⟩ := List.map_eq_cons_iff.mp kinds
  obtain ⟨front, last, rfl, isFront, isLast⟩ := List.map_eq_append_iff.mp isMore
  obtain ⟨stop, rfl, isStop⟩ := List.map_eq_singleton_iff.mp isLast
  obtain ⟨first, others, rfl, isFirst, -⟩ := List.map_eq_cons_iff.mp isFront
  have enough : ks.length < s.tokens.list.length + 1 := by
    have long := congrArg List.length kinds
    simp only [List.length_map, List.length_cons, List.length_append] at long
    omega
  let inner : Reading :=
    { leaving s (first :: others ++ [stop]) s.nodes with handles := standardHandles }
  obtain ⟨id, nodes, step, -, held⟩ :=
    root _ enough inner (first :: others) [stop] rfl isFront trivial
  have rooted : firstRoot s = .ok (some id, leaving inner [stop] nodes) := by
    unfold firstRoot
    refine (bind_of_ok (t := s) (a := s) rfl).trans ?_
    have there : (leaving s (first :: others ++ [stop]) s.nodes).tokens.list =
      first :: (others ++ [stop]) := rfl
    rw [bind_of_ok (skip_cons isTokens), bind_of_ok (peek_cons there), isFirst]
    refine (bind_of_ok (t := inner) (a := ()) rfl).trans ?_
    refine (bind_of_ok (x := node (s.tokens.list.length + 1) .block) (f := fun id => pure (some id))
      step).trans ?_
    rfl
  refine ⟨id, leaving inner [stop] nodes, ?_, held⟩
  unfold document
  rw [bind_of_ok rooted]
  have there : (leaving inner [stop] nodes).tokens.list = [stop] := rfl
  refine (bind_of_ok (opening_end there isStop)).trans ?_
  rfl

end Read

theorem readNodes_of_tokens {text : List Char} (allowed : ∀ c ∈ text, isAllowed c = true)
    {tokens : List Token} (isTokens : Tokens.ofText text = ⟨tokens, none⟩) {ks : List TokenKind}
    (kinds : tokens.map (·.kind) = .streamStart :: ((.blockMappingStart :: ks) ++ [.streamEnd]))
    {P : Nodes → Nat → Prop}
    (root : ∀ fuel, ks.length < fuel →
      Read.Reads (Read.node fuel .block) (.blockMappingStart :: ks) (fun _ => True) P) :
    ∃ nodes id, readNodes text = .ok (nodes, some id) ∧ P nodes id := by
  have all : text.findIdx? (!isAllowed ·) = none := by
    rw [List.findIdx?_eq_none_iff]
    intro c inside
    rw [allowed c inside]
    rfl
  obtain ⟨id, t, step, held⟩ := @Read.document_reads { tokens := .ofText text } ks P
    (by rw [isTokens]; exact kinds) root
  refine ⟨t.nodes, id, ?_, held⟩
  unfold readNodes
  rw [all]
  change (Read.document { tokens := .ofText text } >>= fun r => pure (r.2.nodes, r.1)) = _
  rw [step]
  rfl

end HatReel.Yaml
