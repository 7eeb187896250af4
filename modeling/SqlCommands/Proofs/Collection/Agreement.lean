import SqlCommands.Proofs.Collection.Offers

/-!
# The two kinds of collection agree

A collection is `Coupled` with a value collection if both hold the same descriptors and the latter
keeps its values in order. The names of the one are then the keys of the other, so that both find
the same names taken, and a composite finds the values of all its children. Whatever an action does
with coupled collections, each addition goes the same way on both and leaves them coupled.
-/

namespace SqlCommands

/-- Whether a collection holds the descriptors of a coherent value collection. -/
structure Coupled (c : Collection) (d : ValueCollection) : Prop where
  parameters : c.parameters = d.parameters
  coherent : d.Coherent

/-- Whether two attempts fail alike, or lead to collections that are coupled. -/
inductive Agrees : Except Error Collection → Except Error ValueCollection → Prop
  | error (e : Error) : Agrees (.error e) (.error e)
  | ok {c : Collection} {d : ValueCollection} (h : Coupled c d) : Agrees (.ok c) (.ok d)

namespace Agrees

variable {x : Except Error Collection} {y : Except Error ValueCollection}

lemma map_parameters (h : Agrees x y) :
    x.map Collection.parameters = y.map ValueCollection.parameters := by
  cases h with
  | error e => rfl
  | ok h => exact congrArg Except.ok h.parameters

lemma coherent (h : Agrees x y) {d : ValueCollection} (hd : y = .ok d) : d.Coherent := by
  cases h with
  | error e => cases hd
  | ok h =>
    cases hd
    exact h.coherent

/-- Attempts that agree are settled alike. -/
lemma settle (h : Agrees x y) {c : Collection} {d : ValueCollection} (hcd : Coupled c d) :
    (Addition.settle c x).1 = (Addition.settle d y).1 ∧
      Coupled (Addition.settle c x).2 (Addition.settle d y).2 := by
  cases h with
  | error e => exact ⟨rfl, hcd⟩
  | ok h => exact ⟨rfl, h⟩

end Agrees

namespace Coupled

variable {c : Collection} {d : ValueCollection}

lemma blank : Coupled .blank .blank := ⟨rfl, ValueCollection.coherent_blank⟩

/-- Both find the same names taken. -/
lemma push (h : Coupled c d) (p : Parameter) (v : Value) : Agrees (c.push p) (d.push p v) := by
  cases hd : d.push p v with
  | error e =>
    rw [h.coherent.push_eq] at hd
    rw [c.push_eq, h.parameters]
    split at hd
    · next htaken =>
      cases hd
      rw [if_pos htaken]
      exact .error _
    · cases hd
  | ok d' =>
    obtain ⟨hcoherent, hparameters, -⟩ := h.coherent.push hd
    rw [h.coherent.push_eq] at hd
    rw [c.push_eq, h.parameters]
    split at hd
    · cases hd
    · next hfree =>
      rw [if_neg hfree, ← hparameters]
      exact .ok ⟨rfl, hcoherent⟩

lemma takeOffer (h : Coupled c d) (v : Value) (x : Except Error (Option Parameter)) :
    Agrees (x >>= SqlCommands.takeOffer c c.push)
      (x >>= SqlCommands.takeOffer d (d.push · v)) := by
  cases x with
  | error e => exact .error e
  | ok p? =>
    cases p? with
    | none => exact .ok h
    | some p => exact h.push p v

end Coupled

variable (mapper : TypeMapper)

/-- If an action does the same to both kinds of collection, then so does a composite with it. -/
lemma Operation.offer_eq {op : Operation}
    (hop : ∀ invariantName action, op = .composite invariantName action →
      Agrees (action.run mapper Collection.blank) (action.run mapper ValueCollection.blank)) :
    op.offer mapper Collection = op.offer mapper ValueCollection := by
  cases op with
  | composite invariantName action =>
    exact congrArg (Parameter.group? invariantName) (hop invariantName action rfl).map_parameters
  | _ => rfl

/-- An addition goes the same way on collections that are coupled, and leaves them coupled, if the
action of a composite does the same to both kinds of collection. -/
lemma Operation.coupled_perform_of {op : Operation} {c : Collection} {d : ValueCollection}
    (h : Coupled c d)
    (hop : ∀ invariantName action, op = .composite invariantName action →
      Agrees (action.run mapper Collection.blank) (action.run mapper ValueCollection.blank)) :
    (op.perform mapper c).1 = (op.perform mapper d).1 ∧
      Coupled (op.perform mapper c).2 (op.perform mapper d).2 := by
  obtain ⟨v, hv⟩ := op.perform_valueCollection mapper d
    fun invariantName action inner heq hinner => (hop invariantName action heq).coherent hinner
  rw [op.perform_collection, hv, op.offer_eq mapper hop]
  exact (h.takeOffer v _).settle h

mutual

/-- An addition goes the same way on collections that are coupled, and leaves them coupled. -/
theorem Operation.coupled_perform (op : Operation) {c : Collection} {d : ValueCollection}
    (h : Coupled c d) :
    (op.perform mapper c).1 = (op.perform mapper d).1 ∧
      Coupled (op.perform mapper c).2 (op.perform mapper d).2 := by
  match op with
  | .value invariantName name v => exact Operation.coupled_perform_of mapper h nofun
  | .type invariantName name t v => exact Operation.coupled_perform_of mapper h nofun
  | .property invariantName name p v => exact Operation.coupled_perform_of mapper h nofun
  | .composite invariantName action =>
    refine Operation.coupled_perform_of mapper h ?_
    rintro - - ⟨⟩
    exact Action.agrees_run action Coupled.blank

/-- An action does the same to collections that are coupled. -/
theorem Action.agrees_run (action : Action) {c : Collection} {d : ValueCollection}
    (h : Coupled c d) : Agrees (action.run mapper c) (action.run mapper d) := by
  match action with
  | .succeed => exact .ok h
  | .giveUp e => exact .error e
  | .add op next =>
    obtain ⟨hfault, hcoupled⟩ := Operation.coupled_perform op h
    rw [Action.run_add, Action.run_add, hfault]
    exact Action.agrees_run (next _) hcoupled

end

/-! ### Histories -/

/-- Whether the same addition went the same way on both kinds of collection. -/
structure Performance.Alike (x : Performance Collection) (y : Performance ValueCollection) :
    Prop where
  operation : x.operation = y.operation
  before : x.before.parameters = y.before.parameters
  fault : x.fault? = y.fault?
  after : x.after.parameters = y.after.parameters

lemma Operation.performance_alike (op : Operation) {c : Collection} {d : ValueCollection}
    (h : Coupled c d) : (op.performance mapper c).Alike (op.performance mapper d) := by
  obtain ⟨hfault, hcoupled⟩ := op.coupled_perform mapper h
  exact ⟨rfl, h.parameters, hfault, hcoupled.parameters⟩

mutual

/-- An addition and all additions inside it go the same way on collections that are coupled. -/
theorem Operation.history_alike (op : Operation) {c : Collection} {d : ValueCollection}
    (h : Coupled c d) :
    List.Forall₂ Performance.Alike (op.history mapper c) (op.history mapper d) := by
  rw [Operation.history_eq, Operation.history_eq]
  refine List.rel_append ?_ (.cons (op.performance_alike mapper h) .nil)
  match op with
  | .value invariantName name v => exact .nil
  | .type invariantName name t v => exact .nil
  | .property invariantName name p v => exact .nil
  | .composite invariantName action =>
    rw [Operation.within, Operation.within]
    split
    · exact .nil
    · exact Action.history_alike action Coupled.blank

/-- All additions of an action go the same way on collections that are coupled. -/
theorem Action.history_alike (action : Action) {c : Collection} {d : ValueCollection}
    (h : Coupled c d) :
    List.Forall₂ Performance.Alike (action.history mapper c) (action.history mapper d) := by
  match action with
  | .succeed => exact .nil
  | .giveUp e => exact .nil
  | .add op next =>
    obtain ⟨hfault, hcoupled⟩ := op.coupled_perform mapper h
    rw [Action.history_add, Action.history_add, hfault]
    exact List.rel_append (Operation.history_alike op h) (Action.history_alike (next _) hcoupled)

end

/-! ### Scripts -/

namespace Addition

lemma coupled_run (step : Addition) {c : Collection} {d : ValueCollection} (h : Coupled c d) :
    (step.run mapper c).1.fault? = (step.run mapper d).1.fault? ∧
      Coupled (step.run mapper c).2 (step.run mapper d).2 := by
  have hperform := step.operation.coupled_perform mapper h
  rwa [← run_eq_perform, ← run_eq_perform] at hperform

mutual

/-- A step of a script is reported alike on collections that are coupled. -/
theorem report_run (step : Addition) {c : Collection} {d : ValueCollection} (h : Coupled c d) :
    (step.run mapper c).1 = (step.run mapper d).1 := by
  have hfault := (coupled_run mapper step h).1
  match step with
  | value invariantName name v => exact congrArg Report.plain hfault
  | type invariantName name t v => exact congrArg Report.plain hfault
  | property invariantName name p v => exact congrArg Report.plain hfault
  | attempt step => exact report_run step h
  | composite invariantName steps ignoreErrors =>
    have hinner := reports_runAction ignoreErrors steps Coupled.blank
    exact congrArg₂ Report.composite hfault
      (congrArg (fun inner => if invariantName = "" then [] else inner) hinner)

/-- The steps of an action are reported alike on collections that are coupled. -/
theorem reports_runAction (ignoreErrors : Bool) (steps : List Addition) {c : Collection}
    {d : ValueCollection} (h : Coupled c d) :
    (runAction mapper ignoreErrors steps c).1 = (runAction mapper ignoreErrors steps d).1 := by
  match steps with
  | [] => rfl
  | step :: steps =>
    have hreport := report_run step h
    have hreports := reports_runAction ignoreErrors steps (coupled_run mapper step h).2
    simp only [runAction, hreport]
    split
    · rfl
    · exact congrArg (_ :: ·) hreports

end

/-- A script is reported alike on collections that are coupled, and leaves them coupled. -/
lemma coupled_runAll (steps : List Addition) {c : Collection} {d : ValueCollection}
    (h : Coupled c d) :
    (runAll mapper steps c).1 = (runAll mapper steps d).1 ∧
      Coupled (runAll mapper steps c).2 (runAll mapper steps d).2 := by
  induction steps generalizing c d with
  | nil => exact ⟨rfl, h⟩
  | cons step steps ih =>
    obtain ⟨hreports, hcoupled⟩ := ih (coupled_run mapper step h).2
    exact ⟨congrArg₂ List.cons (report_run mapper step h) hreports, hcoupled⟩

end Addition

/-! ### Agreement -/

/-- Whatever code adds to a blank collection and to a blank value collection, both perform the same
additions at every level, with the same errors and the same descriptors before and after each of
them. The code comes to the same end, and a composite over what it has left can gather the values of
all its children. Scripts are reported alike at every level and leave the same descriptors. -/
theorem collections_agree :
    (∀ action : Action,
      List.Forall₂ Performance.Alike (action.history mapper Collection.blank)
        (action.history mapper ValueCollection.blank) ∧
      (action.run mapper Collection.blank).map Collection.parameters =
        (action.run mapper ValueCollection.blank).map ValueCollection.parameters ∧
      (action.run mapper ValueCollection.blank >>= fun d => d.parameters.mapM d.valueOf) =
        (action.run mapper ValueCollection.blank).map ValueCollection.items) ∧
    ∀ steps : List Addition,
      (Addition.runAll mapper steps Collection.blank).1 =
        (Addition.runAll mapper steps ValueCollection.blank).1 ∧
      (Addition.runAll mapper steps Collection.blank).2.parameters =
        (Addition.runAll mapper steps ValueCollection.blank).2.parameters := by
  constructor
  · intro action
    have hagrees := action.agrees_run mapper Coupled.blank
    refine ⟨action.history_alike mapper Coupled.blank, hagrees.map_parameters, ?_⟩
    cases hd : action.run mapper ValueCollection.blank with
    | error e => rfl
    | ok d => exact (hagrees.coherent hd).mapM_valueOf
  · intro steps
    obtain ⟨hreports, hcoupled⟩ := Addition.coupled_runAll mapper steps Coupled.blank
    exact ⟨hreports, hcoupled.parameters⟩

end SqlCommands
