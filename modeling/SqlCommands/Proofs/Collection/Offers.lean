import SqlCommands.Proofs.Collection.Coherence
import SqlCommands.Proofs.Collection.Edits

/-!
# What an addition offers

Before an addition looks at what its collection holds, it is refused, or has come to nothing, or has
a descriptor to offer. The collection then takes the descriptor, unless its name is taken
(`Operation.perform_collection`, `Operation.perform_valueCollection`). What is offered depends on
the kind of collection only through the descriptors that the action of a composite leaves.
-/

namespace SqlCommands

/-! ### Offers -/

/-- What a composite offers: nothing, if its action has left no descriptors. -/
def Parameter.group? (invariantName : String) (children : Except Error (List Parameter)) :
    Except Error (Option Parameter) :=
  if invariantName = "" then .error (.emptyArgument "invariant_name")
  else children.map fun ps => if ps = [] then none else some (.composite invariantName ps)

/-- What an addition offers to a kind of collection. -/
def Operation.offer (mapper : TypeMapper) (C : Type) [Editable C] :
    Operation → Except Error (Option Parameter)
  | value invariantName name v => (Parameter.ofValue mapper invariantName name v).map some
  | type invariantName name t _ => (Parameter.ofType mapper invariantName name t).map some
  | property invariantName name p _ => (Parameter.ofProperty mapper invariantName name p).map some
  | composite invariantName action => Parameter.group? invariantName
      ((action.run mapper (ParameterStore.blank : C)).map ParameterStore.parameters)

/-- Take what is offered, in the way in which descriptors are added. -/
def takeOffer {C : Type} (c : C) (push : Parameter → Except Error C) :
    Option Parameter → Except Error C
  | none => .ok c
  | some p => push p

/-- A descriptor that was made is on offer. -/
lemma bind_eq_takeOffer {C : Type} (c : C) (push : Parameter → Except Error C)
    (x : Except Error Parameter) : (x >>= push) = (x.map some >>= takeOffer c push) := by
  cases x <;> rfl

/-! ### Collections -/

namespace Collection

lemma push_eq (c : Collection) (p : Parameter) :
    c.push p =
      if p.invariantName ∈ c.parameters.map Parameter.invariantName then
        .error (.duplicateParameter p.invariantName)
      else .ok ⟨c.parameters ++ [p]⟩ := by
  simp only [push, contains, List.any_eq_true, beq_iff_eq, List.mem_map]

lemma addComposite_eq_takeOffer (c : Collection) (invariantName : String)
    (x : Except Error Collection) :
    c.addComposite invariantName (fun _ => x) =
      (Parameter.group? invariantName (x.map parameters) >>= takeOffer c c.push) := by
  rw [addComposite, Parameter.group?, Error.checkNotEmpty_eq]
  by_cases hname : invariantName = ""
  · simp [hname]
  · cases x with
    | error e => simp [hname, Except.map]
    | ok inner =>
      by_cases hempty : inner.parameters = []
      · simp [hname, hempty, Except.map, takeOffer]
      · simp [hname, hempty, Except.map, takeOffer, Parameter.composite?, Error.checkNotEmpty_eq]

end Collection

namespace ValueCollection

/-- The value of a composite is the array of its children's values. -/
lemma addComposite_eq_takeOffer (d : ValueCollection) (invariantName : String)
    {x : Except Error ValueCollection} (hx : ∀ inner, x = .ok inner → inner.Coherent) :
    ∃ v, d.addComposite invariantName (fun _ => x) =
      (Parameter.group? invariantName (x.map parameters) >>= takeOffer d (d.push · v)) := by
  cases x with
  | error e =>
    refine ⟨.null, ?_⟩
    rw [addComposite, Parameter.group?, Error.checkNotEmpty_eq]
    by_cases hname : invariantName = ""
    · simp [hname]
    · simp [hname, Except.map]
  | ok inner =>
    refine ⟨.array inner.items, ?_⟩
    have hitems := (hx inner rfl).mapM_valueOf
    rw [addComposite, Parameter.group?, Error.checkNotEmpty_eq]
    by_cases hname : invariantName = ""
    · simp [hname]
    · by_cases hempty : inner.parameters = []
      · simp [hname, hempty, Except.map, takeOffer]
      · simp [hname, hempty, hitems, Except.map, takeOffer, Parameter.composite?,
          Error.checkNotEmpty_eq]

end ValueCollection

/-! ### Operations -/

namespace Operation

variable (mapper : TypeMapper)

/-- A collection takes what an addition offers. -/
theorem perform_collection (op : Operation) (c : Collection) :
    op.perform mapper c =
      Addition.settle c (op.offer mapper Collection >>= takeOffer c c.push) := by
  rw [perform_eq]
  cases op with
  | value invariantName name v =>
    exact congrArg (Addition.settle c) (bind_eq_takeOffer c c.push _)
  | type invariantName name t v =>
    exact congrArg (Addition.settle c) (bind_eq_takeOffer c c.push _)
  | property invariantName name p v =>
    exact congrArg (Addition.settle c) (bind_eq_takeOffer c c.push _)
  | composite invariantName action =>
    exact congrArg (Addition.settle c) (c.addComposite_eq_takeOffer invariantName _)

/-- A value collection takes what an addition offers, with a value for it. -/
theorem perform_valueCollection {op : Operation} (d : ValueCollection)
    (hop : ∀ invariantName action inner, op = .composite invariantName action →
      action.run mapper ValueCollection.blank = .ok inner → inner.Coherent) :
    ∃ v, op.perform mapper d =
      Addition.settle d (op.offer mapper ValueCollection >>= takeOffer d (d.push · v)) := by
  rw [perform_eq]
  cases op with
  | value invariantName name v =>
    exact ⟨v, congrArg (Addition.settle d) (bind_eq_takeOffer d (d.push · v) _)⟩
  | type invariantName name t v =>
    exact ⟨v, congrArg (Addition.settle d) (bind_eq_takeOffer d (d.push · v) _)⟩
  | property invariantName name p v =>
    exact ⟨v, congrArg (Addition.settle d) (bind_eq_takeOffer d (d.push · v) _)⟩
  | composite invariantName action =>
    obtain ⟨v, hv⟩ := d.addComposite_eq_takeOffer invariantName
      fun inner => hop invariantName action inner rfl
    exact ⟨v, congrArg (Addition.settle d) hv⟩

end Operation

end SqlCommands
