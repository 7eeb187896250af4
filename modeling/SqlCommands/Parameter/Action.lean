import SqlCommands.Parameter.Edit

/-!
# Actions

The action of a composite is code. It adds to a collection of its own, sees how each addition went
and goes on accordingly, until it succeeds or gives up with an error of its choice. An `Action` is
such code as data, fit for either kind of collection, and an `Operation` is one addition whose
composite has such an action.
-/

namespace SqlCommands

mutual

/-- One addition to a collection. -/
inductive Operation where
  | value (invariantName name : String) (v : Value)
  | type (invariantName name : String) (t : ValueType) (v : Value)
  | property (invariantName name : String) (p : Property) (v : Value)
  | composite (invariantName : String) (action : Action)

/-- What the code of an action does next. -/
inductive Action where
  | succeed
  | giveUp (e : Error)
  /-- Add something, and go on by whether and how that failed. -/
  | add (op : Operation) (next : Option Error → Action)

end

/-- An addition that was performed, with its error and the collection before and after it. -/
structure Performance (C : Type) where
  operation : Operation
  before : C
  fault? : Option Error
  after : C

variable {C : Type} [Editable C]

mutual

/-- The code of an addition. The addition is noted when it has ended. -/
def Operation.edit (mapper : TypeMapper) : Operation → Edit C (Performance C) Unit
  | .value invariantName name v =>
    .noting (.mk (.value invariantName name v))
      (.add (Parameter.ofValue mapper invariantName name v) v)
  | .type invariantName name t v =>
    .noting (.mk (.type invariantName name t v))
      (.add (Parameter.ofType mapper invariantName name t) v)
  | .property invariantName name p v =>
    .noting (.mk (.property invariantName name p v))
      (.add (Parameter.ofProperty mapper invariantName name p) v)
  | .composite invariantName action =>
    .noting (.mk (.composite invariantName action))
      (.addComposite invariantName (action.edit mapper))

/-- The code of an action. -/
def Action.edit (mapper : TypeMapper) : Action → Edit C (Performance C) Unit
  | .succeed => pure ()
  | .giveUp e => .fail e
  | .add op next => do
    let fault? ← (op.edit mapper).fault?
    (next fault?).edit mapper

end

/-- Perform an addition: its error, and the collection afterwards. -/
def Operation.perform (mapper : TypeMapper) (op : Operation) (c : C) : Option Error × C :=
  let x := (op.edit mapper).run c
  (Error.thrown? x.outcome, x.after)

/-- Run the code of an action on a collection. -/
def Action.run (mapper : TypeMapper) (action : Action) (c : C) : Except Error C :=
  (action.edit mapper).result c

/-- The performance of an addition. -/
def Operation.performance (mapper : TypeMapper) (op : Operation) (c : C) : Performance C :=
  ⟨op, c, (op.perform mapper c).1, (op.perform mapper c).2⟩

/-- An addition and all additions inside it, at any level and in the order in which they end. -/
def Operation.history (mapper : TypeMapper) (op : Operation) (c : C) : List (Performance C) :=
  ((op.edit mapper).run c).notes

/-- All additions that an action performs. -/
def Action.history (mapper : TypeMapper) (action : Action) (c : C) : List (Performance C) :=
  ((action.edit mapper).run c).notes

/-! ### Scripts -/

namespace Addition

mutual

/-- The operation of a step of a script. -/
def operation : Addition → Operation
  | value invariantName name v => .value invariantName name v
  | type invariantName name t v => .type invariantName name t v
  | property invariantName name p v => .property invariantName name p v
  | composite invariantName steps ignoreErrors =>
    .composite invariantName (action ignoreErrors steps)
  | attempt step => step.operation

/-- The action that follows a script. -/
def action (ignoreErrors : Bool) : List Addition → Action
  | [] => .succeed
  | step :: steps => .add step.operation fun fault? =>
    if fault?.isSome && !(ignoreErrors || step.isAttempt) then .giveUp abandoned
    else action ignoreErrors steps

end

end Addition

end SqlCommands
