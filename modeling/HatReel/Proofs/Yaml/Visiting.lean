import HatReel.Proofs.Yaml.Holding

/-! Visits of nodes that hold values.

A visit that begins at a node that holds a value meets only such nodes. It ends without a fault,
since every collection is put among those to be visited once, and then the value of the first node
is the value that it holds. -/

namespace HatReel.Yaml

open HatReel.Document

theorem at_eq {nodes : Nodes} {id : Nat} {node : Node} (here : nodes[id]? = some node) :
    nodes.at id = node := by
  unfold Nodes.at
  rw [here]
  rfl

theorem isCollectionTag_common {tag : Tag} (common : tag.isCommon = true) :
    isCollectionTag tag = false := by
  cases tag <;> first | rfl | cases common

theorem ne_of_common {tag other : Tag} (common : tag.isCommon = true)
    (uncommon : other.isCommon = false) : tag ≠ other := by
  rintro rfl
  rw [common] at uncommon
  cases uncommon

def IsHeld (nodes : Nodes) (id : Nat) : Prop := ∃ depth v, Holds nodes depth id v

def HoldsScalar (nodes : Nodes) (id : Nat) (v : Value) : Prop :=
  ∃ tag start s, nodes[id]? = some ⟨tag, start, .scalar s⟩ ∧ tag.isCommon = true ∧
    scalarValue tag s start = .ok v

inductive HoldsMore (nodes : Nodes) (id : Nat) : Prop
  | items (start : Mark) (ids : List Nat) (node : nodes[id]? = some ⟨.seq, start, .sequence ids⟩)
      (parts : ∀ i ∈ ids, IsHeld nodes i)
  | entries (start : Mark) (ids : List (Nat × Nat))
      (node : nodes[id]? = some ⟨.map, start, .mapping ids⟩)
      (keys : ∀ e ∈ ids, ∃ name, HoldsScalar nodes e.1 (.text name))
      (parts : ∀ e ∈ ids, IsHeld nodes e.2)

theorem HoldsScalar.isHeld {nodes : Nodes} {id : Nat} {v : Value}
    (scalar : HoldsScalar nodes id v) :
    IsHeld nodes id := by
  obtain ⟨tag, start, s, node, common, value⟩ := scalar
  exact ⟨1, v, .scalar node common value⟩

theorem HoldsScalar.common {nodes : Nodes} {id : Nat} {v : Value}
    (scalar : HoldsScalar nodes id v) :
    (nodes.at id).tag.isCommon = true := by
  obtain ⟨tag, start, s, node, common, _⟩ := scalar
  rw [at_eq node]
  exact common

theorem HoldsScalar.unique {nodes : Nodes} {id : Nat} {v w : Value} (one : HoldsScalar nodes id v)
    (other : HoldsScalar nodes id w) : v = w := by
  obtain ⟨tag, start, s, node, _, value⟩ := one
  obtain ⟨tag', start', s', node', _, value'⟩ := other
  rw [node] at node'
  cases node'
  rw [value] at value'
  cases value'
  rfl

theorem Holds.name {nodes : Nodes} {depth id : Nat} {name : String}
    (held : Holds nodes depth id (.text name)) : HoldsScalar nodes id (.text name) := by
  cases depth with
  | zero => exact held.elim
  | succ depth =>
      cases held with
      | scalar node common value => exact ⟨_, _, _, node, common, value⟩

theorem IsHeld.cases {nodes : Nodes} {id : Nat} (held : IsHeld nodes id) :
    (∃ v, HoldsScalar nodes id v) ∨ HoldsMore nodes id := by
  obtain ⟨depth, v, held⟩ := held
  cases depth with
  | zero => exact held.elim
  | succ depth =>
      cases held with
      | scalar node common value => exact .inl ⟨v, _, _, _, node, common, value⟩
      | items node more parts =>
          refine .inr (.items _ _ node fun i inside => ?_)
          obtain ⟨n, bound, rfl⟩ := List.mem_iff_getElem.mp inside
          exact ⟨depth, _, parts.get bound (parts.length_eq ▸ bound)⟩
      | entries node distinct parts =>
          refine .inr (.entries _ _ node (fun e inside => ?_) fun e inside => ?_) <;>
            obtain ⟨n, bound, rfl⟩ := List.mem_iff_getElem.mp inside
          · exact ⟨_, (parts.get bound (parts.length_eq ▸ bound)).1.name⟩
          · exact ⟨depth, _, (parts.get bound (parts.length_eq ▸ bound)).2⟩

def Content.below : Content → List Nat
  | .scalar _ => []
  | .sequence items => items
  | .mapping entries => entries.flatMap fun e => [e.1, e.2]

theorem HoldsMore.isCollection {nodes : Nodes} {id : Nat} (more : HoldsMore nodes id) :
    isCollectionTag (nodes.at id).tag = true := by
  cases more with
  | items start ids node parts =>
      rw [at_eq node]
      rfl
  | entries start ids node keys parts =>
      rw [at_eq node]
      rfl

theorem HoldsMore.bound {nodes : Nodes} {id : Nat} (more : HoldsMore nodes id) :
    id < nodes.size := by
  cases more with
  | items start ids node parts => exact (Array.getElem?_eq_some_iff.mp node).1
  | entries start ids node keys parts => exact (Array.getElem?_eq_some_iff.mp node).1

theorem resolveMerges_same {nodes : Nodes} {id : Nat}
    (common : ∀ e ∈ nodes.entries id, (nodes.at e.1).tag.isCommon = true) :
    resolveMerges id nodes = .ok nodes := by
  have noMark : ∀ e ∈ nodes.entries id, (!isMergeKey nodes e) = true := by
    intro e inside
    have other : (nodes.at e.1).tag ≠ .merge := ne_of_common (common e inside) rfl
    simpa [isMergeKey] using other
  have all : (nodes.entries id).takeWhile (!isMergeKey nodes ·) = nodes.entries id :=
    List.takeWhile_eq_self_iff.mpr noMark
  have keysStay (entries : List (Nat × Nat))
      (common : ∀ e ∈ entries, (nodes.at e.1).tag.isCommon = true) :
      textKeys nodes entries = nodes := by
    induction entries with
    | nil => rfl
    | cons e entries ih =>
        have other : ((nodes.at e.1).tag == .value) = false :=
          beq_eq_false_iff_ne.mpr (ne_of_common (common e List.mem_cons_self) rfl)
        unfold textKeys
        rw [List.foldl_cons, other]
        exact ih fun d inside => common d (List.mem_cons_of_mem e inside)
  unfold resolveMerges mergeFrom
  simp only [List.drop_zero, all, keysStay _ common, Nat.zero_add, List.drop_length]
  rfl

namespace Visit

variable {nodes : Nodes} {opened : List Nat} {v w : Visit} {id : Nat}

/-- A visit of nodes that hold values, of which the given collections have been opened. -/
structure Fine (nodes : Nodes) (opened : List Nat) (v : Visit) : Prop where
  isNodes : v.nodes = nodes
  scalars : ∀ id x, v.scalars.lookup id = some x → HoldsScalar nodes id x
  places : v.collections.Perm (opened ++ v.waiting)
  distinct : v.collections.Nodup
  held : ∀ id ∈ v.collections, HoldsMore nodes id

/-- A step that keeps what is known and finds out about more nodes. -/
def Finds (nodes : Nodes) (opened : List Nat) (v : Visit) (ids : List Nat)
    (result : Except Fault Visit) : Prop :=
  ∃ w, result = .ok w ∧ Fine nodes opened w ∧ (∀ id, v.isKnown id = true → w.isKnown id = true) ∧
    ∀ id ∈ ids, w.isKnown id = true

theorem Finds.bind {first second : List Nat} {result : Except Fault Visit}
    {f : Visit → Except Fault Visit} (finds : Finds nodes opened v first result)
    (goesOn : ∀ w, Fine nodes opened w → Finds nodes opened w second (f w)) :
    Finds nodes opened v (first ++ second) (result >>= f) := by
  obtain ⟨w, rfl, fine, keeps, found⟩ := finds
  obtain ⟨u, step, fine', keeps', found'⟩ := goesOn w fine
  refine ⟨u, step, fine', fun id known => keeps' id (keeps id known), fun id inside => ?_⟩
  cases List.mem_append.mp inside with
  | inl isFirst => exact keeps' id (found id isFirst)
  | inr isSecond => exact found' id isSecond

theorem look_scalar {x : Value} (unknown : v.isKnown id = false)
    (scalar : HoldsScalar v.nodes id x) :
    v.look id = .ok { v with scalars := (id, x) :: v.scalars } := by
  obtain ⟨tag, start, s, node, common, value⟩ := scalar
  have isScalar : scalarAt v.nodes (v.nodes.size + 1) id = .ok s := by
    unfold scalarAt
    simp only [at_eq node]
  unfold look
  simp only [unknown, at_eq node, isCollectionTag_common common, isScalar]
  -- only the five common tags are left, and all of them have a value
  cases tag <;> first | exact congrArg (· >>= fun x => pure
    { v with scalars := (id, x) :: v.scalars }) value | cases common

theorem look_more (unknown : v.isKnown id = false) (more : HoldsMore v.nodes id) :
    v.look id =
      .ok { v with collections := id :: v.collections, waiting := v.waiting ++ [id] } := by
  unfold look
  simp only [unknown, more.isCollection]
  rfl

theorem finds_look (fine : Fine nodes opened v) (held : IsHeld nodes id) :
    Finds nodes opened v [id] (v.look id) := by
  cases known : v.isKnown id with
  | true =>
      refine ⟨v, ?_, fine, fun _ same => same, by simpa using known⟩
      unfold look
      rw [known]
      rfl
  | false =>
      have unknown := known
      rw [isKnown, Bool.or_eq_false_iff] at unknown
      cases held.cases with
      | inl scalar =>
          obtain ⟨x, scalar⟩ := scalar
          refine ⟨_, look_scalar known (fine.isNodes ▸ scalar), ⟨fine.isNodes, ?_, fine.places,
            fine.distinct, fine.held⟩, ?_, by simp [isKnown]⟩
          · intro other y found
            rw [List.lookup_cons] at found
            by_cases same : other = id
            · subst same
              rw [beq_self_eq_true] at found
              cases found
              exact scalar
            · rw [beq_eq_false_iff_ne.mpr same] at found
              exact fine.scalars other y found
          · intro other before
            rw [isKnown] at before ⊢
            rw [List.lookup_cons]
            by_cases same : other = id
            · rw [same, beq_self_eq_true]
              rfl
            · rw [beq_eq_false_iff_ne.mpr same]
              exact before
      | inr more =>
          have fresh : id ∉ v.collections := by simpa using unknown.2
          refine ⟨_, look_more known (fine.isNodes ▸ more), ⟨fine.isNodes, fine.scalars, ?_,
            List.nodup_cons.mpr ⟨fresh, fine.distinct⟩, ?_⟩, ?_, by simp [isKnown]⟩
          · rw [← List.append_assoc]
            exact (fine.places.cons id).trans (List.perm_append_singleton id _).symm
          · intro other inside
            cases List.mem_cons.mp inside with
            | inl same => exact same ▸ more
            | inr before => exact fine.held other before
          · intro other before
            rw [isKnown, Bool.or_eq_true] at before ⊢
            refine before.imp_right fun inside => ?_
            rw [List.contains_cons, inside, Bool.or_true]

theorem finds_all {α : Type} {f : Visit → α → Except Fault Visit} {below : α → List Nat}
    (as : List α)
    (step : ∀ a ∈ as, ∀ w, Fine nodes opened w → Finds nodes opened w (below a) (f w a))
    (fine : Fine nodes opened v) : Finds nodes opened v (as.flatMap below) (as.foldlM f v) := by
  induction as generalizing v with
  | nil => exact ⟨v, rfl, fine, fun _ same => same, fun _ inside => absurd inside List.not_mem_nil⟩
  | cons a as ih =>
      rw [List.flatMap_cons, List.foldlM_cons]
      exact (step a List.mem_cons_self v fine).bind fun w fine' =>
        ih (fun b inside => step b (List.mem_cons_of_mem a inside)) fine'

theorem finds_lookEntry {e : Nat × Nat} {name : String} (fine : Fine nodes opened v)
    (key : HoldsScalar nodes e.1 (.text name)) (held : IsHeld nodes e.2) :
    Finds nodes opened v [e.1, e.2] (v.lookEntry e) := by
  unfold lookEntry
  refine (finds_look fine key.isHeld).bind fun w fine' => ?_
  have isKey : isCollectionTag (w.nodes.at e.1).tag = false := by
    rw [fine'.isNodes]
    exact isCollectionTag_common key.common
  simp only [isKey]
  exact finds_look fine' held

theorem finds_open (fine : Fine nodes opened v) (more : HoldsMore nodes id) :
    Finds nodes opened v (nodes.at id).content.below (v.open? id) := by
  cases more with
  | items start ids node parts =>
      have isOpen : v.open? id = ids.foldlM look v := by
        unfold open?
        rw [fine.isNodes, at_eq node]
      have isBelow : (nodes.at id).content.below = ids.flatMap fun i => [i] := by
        rw [at_eq node, List.flatMap_singleton']
        rfl
      rw [isOpen, isBelow]
      exact finds_all ids (fun i inside w fine' => finds_look fine' (parts i inside)) fine
  | entries start ids node keys parts =>
      have isEntries : nodes.entries id = ids := by
        unfold Nodes.entries
        rw [at_eq node]
      have merged := @resolveMerges_same nodes id fun e inside => by
        obtain ⟨name, key⟩ := keys e (isEntries ▸ inside)
        exact key.common
      have isOpen : v.open? id = ids.foldlM lookEntry v := by
        unfold open?
        rw [fine.isNodes, at_eq node]
        simp only [merged]
        change (nodes.entries id).foldlM lookEntry { v with nodes } = _
        rw [isEntries, ← fine.isNodes]
      have isBelow : (nodes.at id).content.below = ids.flatMap fun e => [e.1, e.2] := by
        rw [at_eq node]
        rfl
      rw [isOpen, isBelow]
      refine finds_all ids (fun e inside w fine' => ?_) fine
      obtain ⟨name, key⟩ := keys e inside
      exact finds_lookEntry fine' key (parts e inside)

structure Complete (nodes : Nodes) (v : Visit) : Prop where
  isNodes : v.nodes = nodes
  scalars : ∀ id x, v.scalars.lookup id = some x → HoldsScalar nodes id x
  held : ∀ id ∈ v.collections, HoldsMore nodes id
  closed : ∀ id ∈ v.collections, ∀ i ∈ (nodes.at id).content.below, v.isKnown i = true

/-- No more collections are known than there are nodes. -/
theorem Fine.length_le (fine : Fine nodes opened v) : opened.length ≤ nodes.size := by
  have few : v.collections.length ≤ nodes.size := by
    have inside : v.collections ⊆ List.range nodes.size := fun id inside =>
      List.mem_range.mpr (fine.held id inside).bound
    have bound := (fine.distinct.subperm inside).length_le
    rwa [List.length_range] at bound
  have long := fine.places.length_eq
  rw [List.length_append] at long
  omega

/-- A visit ends: with every collection that is opened fewer are left. -/
theorem all_complete (fuel : Nat) (fine : Fine nodes opened v)
    (closed : ∀ id ∈ opened, ∀ i ∈ (nodes.at id).content.below, v.isKnown i = true)
    (enough : nodes.size < fuel + opened.length) :
    ∃ w, v.all fuel = .ok w ∧ Complete nodes w ∧ ∀ id, v.isKnown id = true →
      w.isKnown id = true := by
  induction fuel generalizing v opened with
  | zero =>
      have bound := fine.length_le
      omega
  | succ fuel ih =>
      cases isWaiting : v.waiting with
      | nil =>
          have places := fine.places
          rw [isWaiting, List.append_nil] at places
          refine ⟨v, ?_, ⟨fine.isNodes, fine.scalars, fine.held, fun id inside =>
            closed id (places.mem_iff.mp inside)⟩, fun _ same => same⟩
          unfold all
          rw [isWaiting]
      | cons id rest =>
          have places := fine.places
          rw [isWaiting] at places
          have more : HoldsMore nodes id := fine.held id (places.mem_iff.mpr (by simp))
          have fine' : Fine nodes (opened ++ [id]) { v with waiting := rest } :=
            ⟨fine.isNodes, fine.scalars, by simpa using places, fine.distinct, fine.held⟩
          obtain ⟨w, step, fine'', keeps, found⟩ := finds_open fine' more
          have closed' : ∀ i ∈ opened ++ [id], ∀ j ∈ (nodes.at i).content.below,
              w.isKnown j = true := by
            intro i inside j isBelow
            cases List.mem_append.mp inside with
            | inl before => exact keeps j (closed i before j isBelow)
            | inr same =>
                cases List.mem_singleton.mp same
                exact found j isBelow
          obtain ⟨u, all, complete, keeps'⟩ := ih fine'' closed' (by
            rw [List.length_append, List.length_singleton]
            omega)
          refine ⟨u, ?_, complete, fun i known => keeps' i (keeps i known)⟩
          unfold Visit.all
          rw [isWaiting]
          simp only [step]
          exact all

end Visit

/-- Entries with different names are all kept, in their order. -/
theorem foldl_putEntry {before fields : List (String × Value)}
    (distinct : ((before ++ fields).map (·.1)).Nodup) :
    (fields.map named).foldl putEntry (before.map named) = (before ++ fields).map named := by
  induction fields generalizing before with
  | nil => rw [List.append_nil, List.map_nil, List.foldl_nil]
  | cons f fields ih =>
      have fresh : ((before.map named).any fun e => sameKey e.1 (named f).1) = false := by
        rw [List.map_append, List.map_cons, List.nodup_middle, List.nodup_cons] at distinct
        rw [List.any_eq_false]
        intro e inside same
        obtain ⟨g, isBefore, rfl⟩ := List.mem_map.mp inside
        have isName : g.1 = f.1 := by simpa [named, sameKey] using same
        exact distinct.1 (List.mem_append_left _ (isName ▸ List.mem_map_of_mem isBefore))
      have added : putEntry (before.map named) (named f) = (before ++ [f]).map named := by
        unfold putEntry
        rw [fresh, List.map_append]
        rfl
      rw [List.append_cons] at distinct ⊢
      rw [List.map_cons, List.foldl_cons, added, ih distinct]

namespace Visit.Complete

variable {nodes : Nodes} {v : Visit} (complete : v.Complete nodes) {id : Nat}

include complete

theorem lookup_scalar {x : Value} (scalar : HoldsScalar nodes id x) (known : v.isKnown id = true) :
    v.scalars.lookup id = some x := by
  rw [isKnown, Bool.or_eq_true] at known
  have isKnown : (v.scalars.lookup id).isSome = true := by
    refine known.resolve_right fun inside => ?_
    have more := (complete.held id (by simpa using inside)).isCollection
    rw [isCollectionTag_common scalar.common] at more
    cases more
  obtain ⟨y, found⟩ := Option.isSome_iff_exists.mp isKnown
  rw [found, (complete.scalars id y found).unique scalar]

/-- A collection that is known is no scalar, and what lies below it is known. -/
theorem below_known (isCollection : isCollectionTag (nodes.at id).tag = true)
    (known : v.isKnown id = true) :
    v.scalars.lookup id = none ∧ ∀ i ∈ (nodes.at id).content.below, v.isKnown i = true := by
  have unknown : v.scalars.lookup id = none := by
    cases found : v.scalars.lookup id with
    | none => rfl
    | some y =>
        have common := (complete.scalars id y found).common
        rw [isCollectionTag_common common] at isCollection
        cases isCollection
  rw [isKnown, unknown] at known
  exact ⟨unknown, complete.closed id (by simpa using known)⟩

end Visit.Complete

section

variable {nodes : Nodes} {v : Visit} {depth : Nat}
  (values : ∀ {id : Nat} {x : Value}, Holds nodes depth id x → v.isKnown id = true →
    valueOf v depth id = x)

include values

theorem values_items {ids : List Nat} {vs : List Value}
    (parts : List.Forall₂ (Holds nodes depth) ids vs) (known : ∀ i ∈ ids, v.isKnown i = true) :
    ids.map (valueOf v depth) = vs := by
  induction parts with
  | nil => rfl
  | cons first others ih =>
      rw [List.map_cons, values first (known _ List.mem_cons_self),
        ih fun i inside => known i (List.mem_cons_of_mem _ inside)]

theorem values_entries {ids : List (Nat × Nat)} {fields : List (String × Value)}
    (parts : List.Forall₂ (fun e f => Holds nodes depth e.1 (.text f.1) ∧ Holds nodes depth e.2 f.2)
      ids fields)
    (known : ∀ e ∈ ids, v.isKnown e.1 = true ∧ v.isKnown e.2 = true) :
    (ids.map fun e => (valueOf v depth e.1, valueOf v depth e.2)) = fields.map named := by
  induction parts with
  | nil => rfl
  | cons first others ih =>
      have both := known _ List.mem_cons_self
      rw [List.map_cons, List.map_cons, values first.1 both.1, values first.2 both.2,
        ih fun e inside => known e (List.mem_cons_of_mem _ inside)]
      rfl

end

/-- Once a visit is over, the value of a node that is known is the one that it holds. -/
theorem valueOf_holds {nodes : Nodes} {v : Visit} (complete : v.Complete nodes) {depth : Nat} :
    ∀ {id : Nat} {x : Value}, Holds nodes depth id x → v.isKnown id = true →
      valueOf v depth id = x := by
  induction depth with
  | zero => exact fun held => held.elim
  | succ depth ih =>
      intro id x held known
      unfold valueOf
      cases held with
      | scalar node common value =>
          rw [complete.lookup_scalar ⟨_, _, _, node, common, value⟩ known]
      | @items start ids vs node more parts =>
          obtain ⟨unknown, below⟩ := complete.below_known (by rw [at_eq node]; rfl) known
          rw [at_eq node] at below
          simp only [unknown, complete.isNodes, at_eq node]
          rw [values_items ih parts below]
      | @entries start ids fields node distinct parts =>
          obtain ⟨unknown, below⟩ := complete.below_known (by rw [at_eq node]; rfl) known
          rw [at_eq node] at below
          have both : ∀ e ∈ ids, v.isKnown e.1 = true ∧ v.isKnown e.2 = true := fun e inside =>
            ⟨below e.1 (List.mem_flatMap.mpr ⟨e, inside, by simp⟩),
              below e.2 (List.mem_flatMap.mpr ⟨e, inside, by simp⟩)⟩
          simp only [unknown, complete.isNodes, at_eq node]
          rw [values_entries ih parts both]
          exact congrArg Value.map (@foldl_putEntry [] fields distinct)

/-- The value of a text is what the root of its nodes holds. -/
theorem readValue_holds {text : String} {nodes : Nodes} {root depth : Nat} {x : Value}
    (read : readNodes text.toList = .ok (nodes, some root)) (held : Holds nodes depth root x) :
    readValue depth text = .ok x := by
  have fine : Visit.Fine nodes [] { nodes } :=
    ⟨rfl, fun _ _ found => absurd found.symm (Option.some_ne_none _), List.Perm.nil, List.nodup_nil,
      fun _ inside => absurd inside List.not_mem_nil⟩
  obtain ⟨v, look, fine', -, found⟩ := Visit.finds_look fine ⟨depth, x, held⟩
  obtain ⟨w, all, complete, keeps⟩ := Visit.all_complete (nodes.size + 1) fine'
    (fun _ inside => absurd inside List.not_mem_nil) (Nat.lt_succ_self _)
  have value := valueOf_holds complete held (keeps root (found root List.mem_cons_self))
  unfold readValue
  rw [read]
  change (Visit.look { nodes } root >>= fun v => v.all (nodes.size + 1) >>= fun v =>
    pure (valueOf v depth root)) = _
  rw [look]
  change (v.all (nodes.size + 1) >>= fun v => pure (valueOf v depth root)) = _
  rw [all]
  exact congrArg Except.ok value

end HatReel.Yaml
