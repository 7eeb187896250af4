import SqlCommands.Native
import SqlCommands.Proofs.Binding

/-!
# The nodes of a descriptor

A descriptor and a value are two trees, and binding goes down both of them together. Its course is
a walk along the list of `Parameter.nodes`, in which every node stands with the value it is given,
in front of its children (`Parameter.bind_eq_attachNodes`). Each node is looked at alone: a leaf
whose value fits attaches one native parameter, a composite attaches nothing, and the first node
whose value does not fit ends the walk.
-/

namespace SqlCommands

namespace Parameter

/-! ### Nodes -/

mutual

/-- A descriptor with its value, and behind it the nodes of its children. -/
def nodes : Parameter → Value → List (Parameter × Value)
  | composite n children, .array items =>
    (composite n children, .array items) :: nodesAll children items
  | p, v => [(p, v)]

/-- The nodes of descriptors with their values, pairwise and in order. -/
def nodesAll : List Parameter → List Value → List (Parameter × Value)
  | p :: ps, v :: vs => p.nodes v ++ nodesAll ps vs
  | _, _ => []

end

@[simp] lemma nodes_native (n : String) (v : Value) :
    (native n).nodes v = [(native n, v)] := by
  simp [nodes]

@[simp] lemma nodes_typed (n name : String) (mapping : Mapping) (nullable : Option Bool)
    (v : Value) :
    (typed n name mapping nullable).nodes v = [(typed n name mapping nullable, v)] := by
  simp [nodes]

@[simp] lemma nodes_composite_array (n : String) (children : List Parameter)
    (items : List Value) :
    (composite n children).nodes (.array items) =
      (composite n children, .array items) :: nodesAll children items := by
  rw [nodes]

lemma nodes_composite_of_not_array {n : String} {children : List Parameter} {v : Value}
    (hv : ∀ items, v ≠ .array items) :
    (composite n children).nodes v = [(composite n children, v)] := by
  cases v with
  | array items => exact absurd rfl (hv items)
  | _ => simp [nodes]

/-- Whether a descriptor has no children to bind. -/
def isLeaf : Parameter → Bool
  | composite _ _ => false
  | _ => true

mutual

/-- The leaves of a descriptor, in order. -/
def leaves : Parameter → List Parameter
  | composite _ children => leavesAll children
  | p => [p]

/-- The leaves of descriptors, in order. -/
def leavesAll : List Parameter → List Parameter
  | [] => []
  | p :: ps => p.leaves ++ leavesAll ps

end

/-- Why the value of a node does not fit it, whatever its children are. -/
def misfit? : Parameter × Value → Option Error
  | (native n, v) => if v.isParameter then none else some (.parameterNotNative n)
  | (typed _ _ _ _, _) => none
  | (composite n children, .array items) =>
    if items.length = children.length then none
    else some (.parameterCount n children.length items.length)
  | (composite n _, _) => some (.parameterNotSequence n)

/-- The native parameter of a leaf: the one that is its value, or the driver's blank one with what is
known about the leaf written into it. -/
def leaf? (blank : DbParameter) : Parameter × Value → Option DbParameter
  | (native _, .parameter p) => some p
  | (typed _ name mapping nullable, v) => some { blank with
      name := name
      value := v
      direction := .input
      isNullable := nullable <|> blank.isNullable
      dbType := mapping.dbType <|> blank.dbType
      size := mapping.size <|> blank.size }
  | _ => none

/-! ### Binding as a walk -/

/-- Attach the native parameters of nodes, up to the first one that does not fit. -/
def attachNodes (blank : DbParameter) : List (Parameter × Value) → Attachment
  | [] => .done
  | node :: nodes =>
    (⟨(leaf? blank node).toList, misfit? node⟩ : Attachment).andThen fun _ =>
      attachNodes blank nodes

section Walk

variable (blank : DbParameter)

/-- A value that fits makes one native parameter of a leaf. -/
lemma map_some_leaf? {node : Parameter × Value} (h : misfit? node = none) :
    (leaf? blank node).toList.map some =
      ([node].filter (·.1.isLeaf)).map (leaf? blank) := by
  obtain ⟨p, v⟩ := node
  cases p with
  | native n => cases v <;> simp_all [misfit?, leaf?, isLeaf, Value.isParameter]
  | typed n name mapping nullable => simp [leaf?, isLeaf]
  | composite n children => simp [leaf?, isLeaf]

lemma leaf?_of_misfit {node : Parameter × Value} {e : Error} (h : misfit? node = some e) :
    leaf? blank node = none := by
  obtain ⟨p, v⟩ := node
  cases p with
  | native n => cases v <;> simp_all [misfit?, leaf?, Value.isParameter]
  | typed n name mapping nullable => simp [misfit?] at h
  | composite n children => simp [leaf?]

lemma attachNodes_append (xs ys : List (Parameter × Value)) :
    attachNodes blank (xs ++ ys) =
      (attachNodes blank xs).andThen fun _ => attachNodes blank ys := by
  induction xs with
  | nil => rfl
  | cons x xs ih => rw [List.cons_append, attachNodes, attachNodes, ih, Attachment.andThen_assoc]

@[simp] lemma attachNodes_singleton (node : Parameter × Value) :
    attachNodes blank [node] = ⟨(leaf? blank node).toList, misfit? node⟩ :=
  Attachment.andThen_done _

lemma bind_composite_of_not_array {n : String} {children : List Parameter} {v : Value}
    (hv : ∀ items, v ≠ .array items) :
    (composite n children).bind blank v = .fail (.parameterNotSequence n) := by
  cases v with
  | array items => exact absurd rfl (hv items)
  | _ => simp [bind]

mutual

/-- Binding a descriptor is walking along its nodes. -/
theorem bind_eq_attachNodes (p : Parameter) (v : Value) :
    p.bind blank v = attachNodes blank (p.nodes v) := by
  match p with
  | native n =>
    rw [nodes_native, attachNodes_singleton]
    cases v <;> simp [bind, misfit?, leaf?, Value.isParameter, Attachment.fail, Attachment.one]
  | typed n name mapping nullable =>
    rw [nodes_typed, attachNodes_singleton]
    simp [bind, misfit?, leaf?, Attachment.one, Mapping.parameter]
  | composite n children =>
    by_cases hv : ∃ items, v = .array items
    · obtain ⟨items, rfl⟩ := hv
      rw [nodes_composite_array, attachNodes, ← bindAll_eq_attachNodes children items]
      by_cases hlength : items.length = children.length
      · simp [bind, misfit?, leaf?, hlength, Attachment.andThen]
      · simp [bind, misfit?, leaf?, hlength, Attachment.andThen, Attachment.fail]
    · rw [not_exists] at hv
      rw [nodes_composite_of_not_array hv, attachNodes_singleton, bind_composite_of_not_array _ hv]
      cases v with
      | array items => exact absurd rfl (hv items)
      | _ => rfl

/-- Binding descriptors is walking along their nodes. -/
theorem bindAll_eq_attachNodes (ps : List Parameter) (vs : List Value) :
    bindAll blank ps vs = attachNodes blank (nodesAll ps vs) := by
  match ps, vs with
  | p :: ps, v :: vs =>
    rw [bindAll, nodesAll, attachNodes_append, bind_eq_attachNodes p v,
      bindAll_eq_attachNodes ps vs]
  | [], _ => simp [bindAll, nodesAll, attachNodes]
  | _ :: _, [] => simp [bindAll, nodesAll, attachNodes]

end

/-- Of the nodes that fit, the leaves attach one native parameter each. -/
lemma attachNodes_of_fit {nodes : List (Parameter × Value)}
    (h : ∀ node ∈ nodes, misfit? node = none) :
    ∃ attached, attachNodes blank nodes = ⟨attached, none⟩ ∧
      attached.map some = (nodes.filter (·.1.isLeaf)).map (leaf? blank) := by
  induction nodes with
  | nil => exact ⟨[], rfl, rfl⟩
  | cons node nodes ih =>
    rw [List.forall_mem_cons] at h
    obtain ⟨attached, hattached, hmap⟩ := ih h.2
    refine ⟨(leaf? blank node).toList ++ attached, ?_, ?_⟩
    · simp [attachNodes, Attachment.andThen, h.1, hattached]
    · rw [List.map_append, hmap, map_some_leaf? blank h.1, ← List.map_append,
        ← List.filter_append, List.singleton_append]

/-- A walk ends at the first node that does not fit. -/
lemma attachNodes_of_misfit {node : Parameter × Value} {e : Error}
    (h : misfit? node = some e) (nodes : List (Parameter × Value)) :
    attachNodes blank (node :: nodes) = .fail e := by
  simp [attachNodes, Attachment.andThen, Attachment.fail, h, leaf?_of_misfit blank h]

end Walk

/-! ### Values that fit -/

mutual

/-- A value fits a descriptor if it fits at every node. -/
theorem fits_iff (p : Parameter) (v : Value) :
    p.Fits v ↔ ∀ node ∈ p.nodes v, misfit? node = none := by
  match p with
  | native n => simp [Fits, misfit?]
  | typed n name mapping nullable => simp [Fits, misfit?]
  | composite n children =>
    cases v with
    | array items => simp [Fits, misfit?, fitAll_iff children items]
    | _ => simp [Fits, nodes, misfit?]

theorem fitAll_iff (ps : List Parameter) (vs : List Value) :
    FitAll ps vs ↔
      vs.length = ps.length ∧ ∀ node ∈ nodesAll ps vs, misfit? node = none := by
  match ps, vs with
  | p :: ps, v :: vs =>
    rw [FitAll, fits_iff p v, fitAll_iff ps vs, nodesAll, List.forall_mem_append, List.length_cons,
      List.length_cons, Nat.add_right_cancel_iff, and_left_comm]
  | [], [] => simp [FitAll, nodesAll]
  | [], _ :: _ => simp [FitAll]
  | _ :: _, [] => simp [FitAll]

end

mutual

/-- Where the value fits, the leaves among the nodes are the leaves of the descriptor. -/
theorem map_fst_nodes (p : Parameter) {v : Value} (h : p.Fits v) :
    ((p.nodes v).filter (·.1.isLeaf)).map Prod.fst = p.leaves := by
  match p with
  | native n => simp [isLeaf, leaves]
  | typed n name mapping nullable => simp [isLeaf, leaves]
  | composite n children =>
    cases v with
    | array items =>
      rw [Fits] at h
      simpa [isLeaf, leaves] using map_fst_nodesAll children h
    | _ => simp [Fits] at h

theorem map_fst_nodesAll (ps : List Parameter) {vs : List Value} (h : FitAll ps vs) :
    ((nodesAll ps vs).filter (·.1.isLeaf)).map Prod.fst = leavesAll ps := by
  match ps, vs with
  | p :: ps, v :: vs =>
    rw [FitAll] at h
    rw [nodesAll, List.filter_append, List.map_append, map_fst_nodes p h.1,
      map_fst_nodesAll ps h.2, leavesAll]
  | [], _ => simp [nodesAll, leavesAll]
  | _ :: _, [] => simp [FitAll] at h

end

end Parameter

/-! ### Native commands -/

/-- Bind a parameter to a value on a native command: what it attaches comes behind what is attached
already. -/
def NativeCommand.bind (native : NativeCommand) (p : Parameter) (v : Value) :
    NativeCommand × Option Error :=
  let attachment := p.bind native.blank v
  ({ native with parameters := native.parameters ++ attachment.attached }, attachment.fault?)

/-- Binding sees the nodes of a descriptor up to the first whose value does not fit. The leaves it
has seen attach one native parameter each, in their order. If the value fits the descriptor, it
has seen all leaves and succeeds, and otherwise what is wrong with the first node that does not fit is
the error. -/
theorem NativeCommand.bind_up_to_misfit (native : NativeCommand) (p : Parameter) (v : Value) :
    ∃ seen unseen attached,
      p.nodes v = seen ++ unseen ∧ (∀ node ∈ seen, Parameter.misfit? node = none) ∧
      (native.bind p v).1 = { native with parameters := native.parameters ++ attached } ∧
      attached.map some =
        (seen.filter (·.1.isLeaf)).map (Parameter.leaf? native.blank) ∧
      (p.Fits v ∧ (native.bind p v).2 = none ∧ unseen = [] ∧
          (seen.filter (·.1.isLeaf)).map Prod.fst = p.leaves ∨
        ¬ p.Fits v ∧ ∃ node after e, (native.bind p v).2 = some e ∧ unseen = node :: after ∧
          Parameter.misfit? node = some e) := by
  by_cases hfits : p.Fits v
  · have hnodes := (p.fits_iff v).mp hfits
    obtain ⟨attached, hattached, hmap⟩ := Parameter.attachNodes_of_fit native.blank hnodes
    rw [← Parameter.bind_eq_attachNodes] at hattached
    refine ⟨p.nodes v, [], attached, (List.append_nil _).symm, hnodes, ?_, hmap, Or.inl ?_⟩
    · rw [NativeCommand.bind, hattached]
    · exact ⟨hfits, by rw [NativeCommand.bind, hattached], rfl, p.map_fst_nodes hfits⟩
  · obtain ⟨e, he⟩ : ∃ e, (p.nodes v).findSome? Parameter.misfit? = some e := by
      rw [← Option.ne_none_iff_exists', ne_eq, List.findSome?_eq_none_iff, ← p.fits_iff]
      exact hfits
    obtain ⟨seen, node, after, hnodes, hnode, hseen⟩ := List.findSome?_eq_some_iff.mp he
    obtain ⟨attached, hattached, hmap⟩ := Parameter.attachNodes_of_fit native.blank hseen
    have hbind : p.bind native.blank v = ⟨attached, some e⟩ := by
      rw [Parameter.bind_eq_attachNodes, hnodes, Parameter.attachNodes_append, hattached,
        Parameter.attachNodes_of_misfit _ hnode]
      simp [Attachment.andThen, Attachment.fail]
    refine ⟨seen, node :: after, attached, hnodes, hseen, ?_, hmap, Or.inr ?_⟩
    · rw [NativeCommand.bind, hbind]
    · exact ⟨hfits, node, after, e, by rw [NativeCommand.bind, hbind], rfl, hnode⟩

/-- A leaf is attached before the count of a composite beside it is found to be wrong. -/
example (blank p : DbParameter) :
    (Parameter.composite "a" [.native "b", .composite "c" [.native "d"]]).bind blank
      (.array [.parameter p, .array []]) = ⟨[p], some (.parameterCount "c" 1 0)⟩ := by
  rw [Parameter.bind_eq_attachNodes]
  rfl

end SqlCommands
