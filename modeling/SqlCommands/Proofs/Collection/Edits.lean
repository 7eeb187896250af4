import SqlCommands.Parameter.Action
import SqlCommands.Proofs.Collection.Descriptors

/-!
# What edits do

Collections in place obey a law (`LawfulEditable`): an edit does what the call does that returns a
new collection, changes nothing if that fails, and notes the additions of an action that runs. So
every addition of an action is a call, and comes after the additions inside it
(`Operation.perform_eq`, `Operation.history_eq`).

Scripts are actions that know beforehand what they add (`Addition.run_eq_perform`).
-/

namespace SqlCommands

variable {C E : Type}

/-- What an attempt does that changes a collection as a whole or not at all. -/
@[simp] def Edited.settled (notes : List E) (c : C) : Except Error C → Edited C E Unit
  | .ok c' => ⟨.ok (), c', notes⟩
  | .error e => ⟨.error e, c, notes⟩

/-! ### Laws -/

/-- The calls in place do what the calls do that return a new collection. The action of a composite
runs if its name is not empty. -/
class LawfulEditable (C : Type) [Editable C] : Prop where
  run_addValue {E : Type} (mapper : TypeMapper) (c : C) (invariantName name : String) (v : Value) :
    (Edit.add (Parameter.ofValue mapper invariantName name v) v : Edit C E Unit).run c =
      .settled [] c (ParameterStore.addValue mapper c invariantName name v)
  run_addType {E : Type} (mapper : TypeMapper) (c : C) (invariantName name : String)
      (t : ValueType) (v : Value) :
    (Edit.add (Parameter.ofType mapper invariantName name t) v : Edit C E Unit).run c =
      .settled [] c (ParameterStore.addType mapper c invariantName name t v)
  run_addProperty {E : Type} (mapper : TypeMapper) (c : C) (invariantName name : String)
      (p : Property) (v : Value) :
    (Edit.add (Parameter.ofProperty mapper invariantName name p) v : Edit C E Unit).run c =
      .settled [] c (ParameterStore.addProperty mapper c invariantName name p v)
  run_addComposite {E : Type} (c : C) (invariantName : String) (action : Edit C E Unit) :
    (Edit.addComposite invariantName action).run c =
      .settled (if invariantName = "" then [] else (action.run ParameterStore.blank).notes) c
        (ParameterStore.addComposite c invariantName fun _ => action.result ParameterStore.blank)

namespace Edit

/-- A check before an attempt is part of the attempt. -/
lemma run_lift_bind {α : Type} {c : C} {f : α → Edit C E Unit} {g : α → Except Error C}
    (h : ∀ a, (f a).run c = .settled [] c (g a)) (x : Except Error α) :
    (liftM x >>= f : Edit C E Unit).run c = .settled [] c (x >>= g) := by
  cases x with
  | error e => rfl
  | ok a => exact h a

/-- What is noted on a collection of its own is noted before an attempt that goes on from it. -/
lemma run_runOn_bind {c blank : C} {f : C → Edit C E Unit} {g : C → Except Error C}
    (h : ∀ inner, (f inner).run c = .settled [] c (g inner)) (u : Edit C E Unit) :
    (u.runOn blank >>= f).run c = .settled (u.run blank).notes c (u.result blank >>= g) := by
  cases hresult : u.result blank with
  | error e => simp [runOn, hresult]
  | ok inner =>
    simp only [run_bind, runOn, hresult, Edited.andThen, h, ok_bind]
    cases g inner <;> simp

/-- A note on an attempt comes after what was noted during it. -/
lemma run_noting {c : C} {note : C → Option Error → C → E} {u : Edit C E Unit} {notes : List E}
    {x : Except Error C} (h : u.run c = .settled notes c x) :
    (u.noting note).run c =
      .settled (notes ++ [note c (Addition.settle c x).1 (Addition.settle c x).2]) c x := by
  simp only [noting, h]
  cases x <;> rfl

variable [Editable C]

lemma run_addComposite {c : C} {push : Parameter → Value → Except Error C}
    (hpush : ∀ p v, (Editable.push p v : Edit C E Unit).run c = .settled [] c (push p v))
    (invariantName : String) (action : Edit C E Unit) :
    (addComposite invariantName action).run c =
      .settled (if invariantName = "" then [] else (action.run ParameterStore.blank).notes) c (do
        Error.checkNotEmpty invariantName "invariant_name"
        let inner ← action.result ParameterStore.blank
        if (ParameterStore.parameters inner).isEmpty then return c
        let items ← Editable.gather inner
        push (← Parameter.composite? invariantName (ParameterStore.parameters inner))
          (.array items)) := by
  by_cases hname : invariantName = ""
  · simp [addComposite, Error.checkNotEmpty_eq, hname]
  · simp only [addComposite, Error.checkNotEmpty_eq, hname, if_false, run_bind, run_lift,
      Edited.ok_andThen, ok_bind]
    apply run_runOn_bind
    intro inner
    by_cases hempty : ParameterStore.parameters inner = []
    · simp [hempty]
    · simp only [List.isEmpty_iff, hempty, if_false]
      exact run_lift_bind (fun items => run_lift_bind (hpush · (.array items)) _) _

end Edit

lemma Collection.run_pushInPlace (c : Collection) (p : Parameter) :
    (pushInPlace p : Edit Collection E Unit).run c = .settled [] c (c.push p) := by
  by_cases h : c.contains p.invariantName = true
  · simp [pushInPlace, push, h]
  · simp [pushInPlace, push, h]

lemma ValueCollection.run_pushInPlace (c : ValueCollection) (p : Parameter) (v : Value) :
    (pushInPlace p v : Edit ValueCollection E Unit).run c = .settled [] c (c.push p v) := by
  by_cases h : (c.values.lookup p.invariantName).isSome = true
  · simp [pushInPlace, push, h]
  · simp [pushInPlace, push, h]

instance : LawfulEditable Collection where
  run_addValue _ c _ _ _ := Edit.run_lift_bind (c.run_pushInPlace ·) _
  run_addType _ c _ _ _ _ := Edit.run_lift_bind (c.run_pushInPlace ·) _
  run_addProperty _ c _ _ _ _ := Edit.run_lift_bind (c.run_pushInPlace ·) _
  run_addComposite c _ _ := Edit.run_addComposite (fun p _ => c.run_pushInPlace p) _ _

instance : LawfulEditable ValueCollection where
  run_addValue _ c _ _ v := Edit.run_lift_bind (c.run_pushInPlace · v) _
  run_addType _ c _ _ _ v := Edit.run_lift_bind (c.run_pushInPlace · v) _
  run_addProperty _ c _ _ _ v := Edit.run_lift_bind (c.run_pushInPlace · v) _
  run_addComposite c _ _ := Edit.run_addComposite c.run_pushInPlace _ _

/-! ### Operations and actions -/

section Operations

variable [Editable C] (mapper : TypeMapper)

/-- The call of an addition that returns a new collection. -/
def Operation.attempt (op : Operation) (c : C) : Except Error C :=
  match op with
  | value invariantName name v => ParameterStore.addValue mapper c invariantName name v
  | type invariantName name t v => ParameterStore.addType mapper c invariantName name t v
  | property invariantName name p v => ParameterStore.addProperty mapper c invariantName name p v
  | composite invariantName action =>
    ParameterStore.addComposite c invariantName fun _ => action.run mapper ParameterStore.blank

/-- The additions inside an addition. The action of a composite without a name does not run. -/
def Operation.within (C : Type) [Editable C] : Operation → List (Performance C)
  | composite invariantName action =>
    if invariantName = "" then [] else action.history mapper ParameterStore.blank
  | _ => []

section Lawful

variable [LawfulEditable C] (op : Operation) (c : C)

lemma Operation.run_edit :
    (op.edit mapper).run c =
      .settled (op.within mapper C ++
        [⟨op, c, (Addition.settle c (op.attempt mapper c)).1,
          (Addition.settle c (op.attempt mapper c)).2⟩]) c (op.attempt mapper c) := by
  cases op with
  | value invariantName name v => exact Edit.run_noting (LawfulEditable.run_addValue _ _ _ _ _)
  | type invariantName name t v => exact Edit.run_noting (LawfulEditable.run_addType _ _ _ _ _ _)
  | property invariantName name p v =>
    exact Edit.run_noting (LawfulEditable.run_addProperty _ _ _ _ _ _)
  | composite invariantName action =>
    exact Edit.run_noting (LawfulEditable.run_addComposite _ _ _)

/-- An addition in place does what the call does that returns a new collection. -/
theorem Operation.perform_eq : op.perform mapper c = Addition.settle c (op.attempt mapper c) := by
  rw [perform, run_edit]
  cases op.attempt mapper c <;> rfl

/-- An addition ends after the additions inside it. -/
theorem Operation.history_eq :
    op.history mapper c = op.within mapper C ++ [op.performance mapper c] := by
  rw [history, run_edit, performance, perform_eq]
  cases op.attempt mapper c <;> rfl

end Lawful

lemma Action.run_add (op : Operation) (next : Option Error → Action) (c : C) :
    (Action.add op next).run mapper c =
      (next (op.perform mapper c).1).run mapper (op.perform mapper c).2 := rfl

lemma Action.history_add (op : Operation) (next : Option Error → Action) (c : C) :
    (Action.add op next).history mapper c =
      op.history mapper c ++
        (next (op.perform mapper c).1).history mapper (op.perform mapper c).2 := rfl

end Operations

/-! ### Scripts -/

namespace Addition

variable [Editable C] (mapper : TypeMapper)

mutual

/-- A step of a script is performed as its operation. -/
theorem run_eq_perform [LawfulEditable C] (step : Addition) (c : C) :
    ((step.run mapper c).1.fault?, (step.run mapper c).2) = step.operation.perform mapper c := by
  match step with
  | value invariantName name v =>
    rw [operation, Operation.perform_eq]
    rfl
  | type invariantName name t v =>
    rw [operation, Operation.perform_eq]
    rfl
  | property invariantName name p v =>
    rw [operation, Operation.perform_eq]
    rfl
  | attempt step => exact run_eq_perform step c
  | composite invariantName steps ignoreErrors =>
    rw [operation, Operation.perform_eq, Operation.attempt, ← runAction_eq_run ignoreErrors steps]
    rfl

/-- A script is run as its action. -/
theorem runAction_eq_run [LawfulEditable C] (ignoreErrors : Bool) (steps : List Addition)
    (c : C) :
    (runAction mapper ignoreErrors steps c).2 = (action ignoreErrors steps).run mapper c := by
  match steps with
  | [] => rfl
  | step :: steps =>
    have hstep := run_eq_perform step c
    rw [action, Action.run_add, ← hstep, runAction]
    dsimp only
    split
    · rfl
    · exact runAction_eq_run ignoreErrors steps _

end

end Addition

end SqlCommands
