import HatReel.Files.Store

/-! Following paths through a store that changes.

Which key a path leads to depends on the directories on the way only. A change that keeps all
directories therefore keeps where a path leads, and only what stands under the last key may be
another node. -/

namespace HatReel.Files

namespace Store

def nodeIn? (entries : List (Key × Node)) (key : Key) : Option Node :=
  (entries.find? fun e => e.1 == key).map (·.2)

theorem nodeIn?_cons (e : Key × Node) (entries : List (Key × Node)) (key : Key) :
    nodeIn? (e :: entries) key = if e.1 = key then some e.2 else nodeIn? entries key := by
  unfold nodeIn?
  rw [List.find?_cons]
  by_cases same : e.1 = key
  · rw [if_pos same, beq_iff_eq.mpr same]
    rfl
  · rw [if_neg same, beq_eq_false_iff_ne.mpr same]

theorem nodeIn?_append (entries : List (Key × Node)) (key other : Key) (node : Node)
    (free : ∀ e ∈ entries, e.1 ≠ key) :
    nodeIn? (entries ++ [(key, node)]) other =
      if other = key then some node else nodeIn? entries other := by
  induction entries with
  | nil =>
      rw [List.nil_append, nodeIn?_cons]
      by_cases same : key = other
      · rw [if_pos same, if_pos same.symm]
      · rw [if_neg same, if_neg (Ne.symm same)]
  | cons e entries ih =>
      rw [List.cons_append, nodeIn?_cons, nodeIn?_cons,
        ih fun f member => free f (List.mem_cons_of_mem e member)]
      have apart := free e List.mem_cons_self
      by_cases same : e.1 = other
      · have different : other ≠ key := same ▸ apart
        rw [if_pos same, if_neg different, if_pos same]
      · rw [if_neg same, if_neg same]

theorem nodeIn?_replace (entries : List (Key × Node)) (key other : Key) (node : Node) :
    nodeIn? (entries.map fun e => if e.1 == key then (key, node) else e) other =
      (nodeIn? entries other).map fun old => if other = key then node else old := by
  induction entries with
  | nil => rfl
  | cons e entries ih =>
      rw [List.map_cons, nodeIn?_cons, nodeIn?_cons, ih]
      by_cases replaced : e.1 = key
      · rw [beq_iff_eq.mpr replaced, if_pos rfl, replaced]
        by_cases same : key = other
        · rw [if_pos same, if_pos same, Option.map_some, if_pos same.symm]
        · rw [if_neg same, if_neg same]
      · rw [beq_eq_false_iff_ne.mpr replaced, if_neg Bool.false_ne_true]
        by_cases same : e.1 = other
        · have different : other ≠ key := same ▸ replaced
          rw [if_pos same, if_pos same, Option.map_some, if_neg different]
        · rw [if_neg same, if_neg same]

theorem nodeIn?_filter (entries : List (Key × Node)) (key other : Key) :
    nodeIn? (entries.filter fun e => e.1 != key) other =
      if other = key then none else nodeIn? entries other := by
  induction entries with
  | nil => exact (ite_self none).symm
  | cons e entries ih =>
      rw [nodeIn?_cons, List.filter_cons]
      by_cases removed : e.1 = key
      · have dropped : (e.1 != key) = false := by simp [removed]
        rw [dropped, if_neg Bool.false_ne_true, ih]
        by_cases same : other = key
        · rw [if_pos same, if_pos same]
        · have different : e.1 ≠ other := fun match_other => same (match_other ▸ removed)
          rw [if_neg same, if_neg same, if_neg different]
      · have kept : (e.1 != key) = true := by simp [removed]
        rw [kept, if_pos rfl, nodeIn?_cons, ih]
        by_cases same : e.1 = other
        · have different : other ≠ key := same ▸ removed
          rw [if_pos same, if_pos same, if_neg different]
        · rw [if_neg same, if_neg same]

theorem nodeIn?_isSome (entries : List (Key × Node)) (key : Key) :
    (nodeIn? entries key).isSome = entries.any fun e => e.1 == key := by
  rw [nodeIn?, Option.isSome_map, Bool.eq_iff_iff, List.find?_isSome, List.any_eq_true]

theorem node?_eq (s : Store) (key : Key) :
    s.node? key = if key = [] ∨ key = here then some .directory else nodeIn? s.entries key := by
  unfold node? nodeIn?
  by_cases top : key = [] ∨ key = here
  · rw [if_pos top, if_pos (by simpa using top)]
  · rw [if_neg top, if_neg (by simpa using top)]

theorem node?_put (s : Store) (key other : Key) (node : Node) (below : ¬(key = [] ∨ key = here)) :
    (s.put key node).node? other = if other = key then some node else s.node? other := by
  rw [node?_eq, node?_eq]
  by_cases top : other = [] ∨ other = here
  · have different : other ≠ key := fun same => below (same ▸ top)
    rw [if_pos top, if_neg different, if_pos top]
  · rw [if_neg top, if_neg top]
    unfold put
    by_cases taken : (s.entries.any fun e => e.1 == key) = true
    · rw [if_pos taken, nodeIn?_replace]
      by_cases same : other = key
      · have held : (nodeIn? s.entries other).isSome = true := by
          rw [same, nodeIn?_isSome, taken]
        obtain ⟨old, found⟩ := Option.isSome_iff_exists.mp held
        rw [found, Option.map_some, if_pos same, if_pos same]
      · simp only [if_neg same, Option.map_id']
    · have free : ∀ e ∈ s.entries, e.1 ≠ key := by
        intro e member same
        exact taken (List.any_eq_true.mpr ⟨e, member, beq_iff_eq.mpr same⟩)
      rw [if_neg taken, nodeIn?_append s.entries key other node free]

theorem node?_remove (s : Store) (key other : Key) (below : ¬(key = [] ∨ key = here)) :
    (s.remove key).node? other = if other = key then none else s.node? other := by
  rw [node?_eq, node?_eq]
  by_cases top : other = [] ∨ other = here
  · have different : other ≠ key := fun same => below (same ▸ top)
    rw [if_pos top, if_neg different, if_pos top]
  · rw [if_neg top, if_neg top]
    exact nodeIn?_filter s.entries key other

theorem follow_nil_ok {s : Store} {key last : Key} {node : Node}
    (followed : s.follow key [] = .ok (last, node)) : last = key ∧ s.node? key = some node := by
  rw [follow] at followed
  cases found : s.node? key with
  | none =>
      rw [found] at followed
      cases followed
  | some other =>
      rw [found] at followed
      cases followed
      exact ⟨rfl, rfl⟩

theorem follow_cons_ok {s : Store} {key last : Key} {name : String} {rest : List String}
    {node : Node} (followed : s.follow key (name :: rest) = .ok (last, node)) :
    s.node? key = some .directory ∧
      ∃ next, enter key name = .ok next ∧ s.follow next rest = .ok (last, node) := by
  rw [follow] at followed
  cases found : s.node? key with
  | none =>
      rw [found] at followed
      cases followed
  | some other =>
      rw [found] at followed
      cases other with
      | file content => cases followed
      | directory =>
          cases entered : enter key name with
          | error errno =>
              rw [entered] at followed
              cases followed
          | ok next =>
              rw [entered] at followed
              exact ⟨rfl, next, rfl, followed⟩

theorem follow_cons {s : Store} {key next : Key} {name : String} (rest : List String)
    (found : s.node? key = some .directory) (entered : enter key name = .ok next) :
    s.follow key (name :: rest) = s.follow next rest := by
  rw [follow, found]
  simp only [entered]
  rfl

theorem follow_node {s : Store} {key last : Key} {names : List String} {node : Node}
    (followed : s.follow key names = .ok (last, node)) : s.node? last = some node := by
  induction names generalizing key with
  | nil =>
      obtain ⟨rfl, found⟩ := follow_nil_ok followed
      exact found
  | cons name rest ih =>
      obtain ⟨_, next, _, further⟩ := follow_cons_ok followed
      exact ih further

theorem enter_ok {key next : Key} {name : String} (plain : name ≠ "..")
    (entered : enter key name = .ok next) : next = key ++ [name] ∧ isTooLong name = false := by
  unfold enter at entered
  rw [if_neg (by simpa using plain)] at entered
  cases long : isTooLong name with
  | true =>
      rw [long] at entered
      cases entered
  | false =>
      rw [long] at entered
      cases entered
      exact ⟨rfl, rfl⟩

/-- Without double dots a path leads to the key that consists of its names. -/
theorem follow_key {s : Store} {key last : Key} {names : List String} {node : Node}
    (plain : ".." ∉ names) (followed : s.follow key names = .ok (last, node)) :
    last = key ++ names := by
  induction names generalizing key with
  | nil =>
      obtain ⟨rfl, _⟩ := follow_nil_ok followed
      exact (List.append_nil _).symm
  | cons name rest ih =>
      obtain ⟨_, next, entered, further⟩ := follow_cons_ok followed
      have notDouble : name ≠ ".." := fun same => plain (same ▸ List.mem_cons_self)
      have plainRest : ".." ∉ rest := fun member => plain (List.mem_cons_of_mem name member)
      rw [ih plainRest further, (enter_ok notDouble entered).1, List.append_assoc]
      rfl

def Keeps (s s' : Store) : Prop :=
  ∀ key, s.node? key = some .directory → s'.node? key = some .directory

/-- As long as the directories stay, a path leads to the same key, whatever stands there now. -/
theorem follow_onto {s s' : Store} {key last : Key} {names : List String} {node new : Node}
    (keeps : Keeps s s') (followed : s.follow key names = .ok (last, node))
    (found : s'.node? last = some new) : s'.follow key names = .ok (last, new) := by
  induction names generalizing key with
  | nil =>
      obtain ⟨rfl, _⟩ := follow_nil_ok followed
      rw [follow, found]
  | cons name rest ih =>
      obtain ⟨passed, next, entered, further⟩ := follow_cons_ok followed
      rw [follow_cons rest (keeps key passed) entered]
      exact ih further

theorem follow_keeps {s s' : Store} {key last : Key} {names : List String} (keeps : Keeps s s')
    (followed : s.follow key names = .ok (last, .directory)) :
    s'.follow key names = .ok (last, .directory) :=
  follow_onto keeps followed (keeps last (follow_node followed))

theorem follow_child {s : Store} {key last : Key} {names : List String} {name : String}
    (plain : name ≠ "..") (short : isTooLong name = false)
    (followed : s.follow key names = .ok (last, .directory)) :
    s.follow key (names ++ [name]) =
      match s.node? (last ++ [name]) with
      | some node => .ok (last ++ [name], node)
      | none => .error .noEntry := by
  have entered (from' : Key) : enter from' name = .ok (from' ++ [name]) := by
    unfold enter
    rw [if_neg (by simpa using plain), short]
    rfl
  induction names generalizing key with
  | nil =>
      obtain ⟨rfl, found⟩ := follow_nil_ok followed
      rw [List.nil_append, follow_cons [] found (entered last)]
      rfl
  | cons first rest ih =>
      obtain ⟨found, next, into, further⟩ := follow_cons_ok followed
      rw [List.cons_append, follow_cons _ found into]
      exact ih further

end Store

end HatReel.Files
