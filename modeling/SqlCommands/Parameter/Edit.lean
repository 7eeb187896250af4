import Mathlib.Tactic.Lemma
import SqlCommands.Parameter.Script

/-!
# Collections edited in place

The calls of a collection, statement by statement. An `Edit` changes a collection in place, and what
it has changed by the time it fails stays changed. Nothing is taken back, so that a call which fails
leaves its collection alone only if all its checks come before its first change.
-/

namespace SqlCommands

/-- The error of an attempt that failed. -/
def Error.thrown? {α : Type} : Except Error α → Option Error
  | .ok _ => none
  | .error e => some e

/-! ### Code that works in place -/

/-- What code did: what it came to, the collection as it left it and the notes it took, in order. -/
structure Edited (C E α : Type) where
  outcome : Except Error α
  after : C
  notes : List E

/-- Code that changes a collection in place, and takes notes of some type. -/
structure Edit (C E α : Type) where
  run : C → Edited C E α

variable {C E α β : Type}

/-- Go on after code that ran, unless it failed. -/
def Edited.andThen (x : Edited C E α) (f : α → Edit C E β) : Edited C E β :=
  match x.outcome with
  | .ok a =>
    let y := (f a).run x.after
    ⟨y.outcome, y.after, x.notes ++ y.notes⟩
  | .error e => ⟨.error e, x.after, x.notes⟩

@[simp] lemma Edited.ok_andThen (a : α) (c : C) (f : α → Edit C E β) :
    Edited.andThen ⟨.ok a, c, []⟩ f = (f a).run c := rfl

@[simp] lemma Edited.error_andThen (e : Error) (c : C) (notes : List E) (f : α → Edit C E β) :
    Edited.andThen ⟨.error e, c, notes⟩ f = ⟨.error e, c, notes⟩ := rfl

namespace Edit

instance : Monad (Edit C E) where
  pure a := ⟨fun c => ⟨.ok a, c, []⟩⟩
  bind u f := ⟨fun c => (u.run c).andThen f⟩

instance : MonadStateOf C (Edit C E) where
  get := ⟨fun c => ⟨.ok c, c, []⟩⟩
  set c := ⟨fun _ => ⟨.ok (), c, []⟩⟩
  modifyGet f := ⟨fun c => ⟨.ok (f c).1, (f c).2, []⟩⟩

instance : MonadLift (Except Error) (Edit C E) where
  monadLift x := ⟨fun c => ⟨x, c, []⟩⟩

/-- Stop with an error. -/
def fail (e : Error) : Edit C E α := ⟨fun c => ⟨.error e, c, []⟩⟩

/-- The collection that code leaves if it succeeds. -/
def result (u : Edit C E Unit) (c : C) : Except Error C :=
  (u.run c).outcome.map fun _ => (u.run c).after

/-- Find out whether code fails. -/
def fault? (u : Edit C E Unit) : Edit C E (Option Error) where
  run c :=
    let x := u.run c
    ⟨.ok (Error.thrown? x.outcome), x.after, x.notes⟩

/-- Run code on a collection of its own. -/
def runOn (inner : C) (u : Edit C E Unit) : Edit C E C where
  run c := ⟨u.result inner, c, (u.run inner).notes⟩

/-- Take a note of whether code failed, and of the collection before and after it. -/
def noting (note : C → Option Error → C → E) (u : Edit C E Unit) : Edit C E Unit where
  run c :=
    let x := u.run c
    ⟨x.outcome, x.after, x.notes ++ [note c (Error.thrown? x.outcome) x.after]⟩

@[simp] lemma run_pure (a : α) (c : C) : (pure a : Edit C E α).run c = ⟨.ok a, c, []⟩ := rfl

@[simp] lemma run_bind (u : Edit C E α) (f : α → Edit C E β) (c : C) :
    (u >>= f).run c = (u.run c).andThen f := rfl

@[simp] lemma run_fail (e : Error) (c : C) : (fail e : Edit C E α).run c = ⟨.error e, c, []⟩ := rfl

@[simp] lemma run_get (c : C) : (get : Edit C E C).run c = ⟨.ok c, c, []⟩ := rfl

@[simp] lemma run_modify (f : C → C) (c : C) :
    (modify f : Edit C E PUnit).run c = ⟨.ok (), f c, []⟩ := rfl

@[simp] lemma run_lift (x : Except Error α) (c : C) :
    (liftM x : Edit C E α).run c = ⟨x, c, []⟩ := rfl

end Edit

/-! ### Calls in place -/

/-- What both kinds of collection do in place. -/
class Editable (C : Type) extends ParameterStore C where
  /-- Add a descriptor under a new name, with a value for it. -/
  push {E : Type} : Parameter → Value → Edit C E Unit
  /-- The values of what a collection holds, if it keeps any. -/
  gather : C → Except Error (List Value)

namespace Edit

variable [Editable C]

/-- Add a descriptor that was made from facts. -/
def add (descriptor : Except Error Parameter) (v : Value) : Edit C E Unit := do
  Editable.push (← descriptor) v

/-- Add a composite whose children an action adds to a blank collection. -/
def addComposite (invariantName : String) (action : Edit C E Unit) : Edit C E Unit := do
  Error.checkNotEmpty invariantName "invariant_name"
  let inner ← action.runOn ParameterStore.blank
  unless (ParameterStore.parameters inner).isEmpty do
    let items ← Editable.gather inner
    Editable.push (← Parameter.composite? invariantName (ParameterStore.parameters inner))
      (.array items)

end Edit

/-- Add a descriptor under a new name. -/
def Collection.pushInPlace (p : Parameter) : Edit Collection E Unit := do
  if (← get).contains p.invariantName then
    Edit.fail (.duplicateParameter p.invariantName)
  else modify fun c => { c with parameters := c.parameters ++ [p] }

/-- Add a value under a new name, and then the descriptor for it. -/
def ValueCollection.pushInPlace (p : Parameter) (v : Value) : Edit ValueCollection E Unit := do
  if ((← get).values.lookup p.invariantName).isSome then
    Edit.fail (.duplicateParameter p.invariantName)
  else
    modify fun c => { c with values := c.values ++ [(p.invariantName, v)] }
    modify fun c => { c with parameters := c.parameters ++ [p] }

instance : Editable Collection where
  push p _ := Collection.pushInPlace p
  gather _ := .ok []

instance : Editable ValueCollection where
  push := ValueCollection.pushInPlace
  gather c := c.parameters.mapM c.valueOf

end SqlCommands
