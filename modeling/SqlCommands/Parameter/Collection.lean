import SqlCommands.Parameter

/-!
# Parameter collections

Two builders of descriptor lists. A `Collection` keeps descriptors only; a `ValueCollection` also
keeps the value given with each, under the descriptor's name. Both keep the order in which
descriptors were added, which is the order of binding, and refuse a second descriptor of one name.
A composite whose action adds nothing leaves no trace.

`ParameterStore` is what the two have in common.
-/

namespace SqlCommands

/-- Values by parameter name, in the order in which they were added. -/
abbrev ValueMap := List (String × Value)

/-- What both kinds of collection can do. A collection without values ignores the value of an
addition by type or by property. -/
class ParameterStore (C : Type) where
  /-- Nothing added yet. -/
  blank : C
  /-- The descriptors, in order. -/
  parameters : C → List Parameter
  /-- Add a descriptor inferred from a value. -/
  addValue : TypeMapper → C → String → String → Value → Except Error C
  /-- Add a descriptor of a static type. -/
  addType : TypeMapper → C → String → String → ValueType → Value → Except Error C
  /-- Add a descriptor for a column. -/
  addProperty : TypeMapper → C → String → String → Property → Value → Except Error C
  /-- Add a composite whose children an action adds to a blank collection. -/
  addComposite : C → String → (C → Except Error C) → Except Error C

/-! ### Descriptors from facts -/

namespace Parameter

/-- The descriptor for a value: a native parameter passes through, and the nullability of null is
unknown. -/
def ofValue (mapper : TypeMapper) (invariantName name : String) (v : Value) :
    Except Error Parameter := do
  Error.checkNotEmpty invariantName "invariant_name"
  Error.checkNotEmpty name "name"
  if v.isParameter then native? invariantName
  else
    let mapping ← mapper.forValue v
    typed? invariantName name mapping (v.kind?.map fun k => (ValueType.plain k).isNullable)

/-- The descriptor for a static type. -/
def ofType (mapper : TypeMapper) (invariantName name : String) (t : ValueType) :
    Except Error Parameter := do
  Error.checkNotEmpty invariantName "invariant_name"
  Error.checkNotEmpty name "name"
  let mapping ← mapper.forType t
  typed? invariantName name mapping (some t.isNullable)

/-- The descriptor for a column. -/
def ofProperty (mapper : TypeMapper) (invariantName name : String) (p : Property) :
    Except Error Parameter := do
  Error.checkNotEmpty invariantName "invariant_name"
  Error.checkNotEmpty name "name"
  let mapping ← mapper.forProperty p
  typed? invariantName name mapping (some p.isNullable)

end Parameter

/-! ### Descriptors only -/

/-- Descriptors in the order in which they were added. -/
structure Collection where
  parameters : List Parameter
deriving Inhabited

namespace Collection

/-- Nothing added yet. -/
def blank : Collection := ⟨[]⟩

/-- Whether a descriptor has a name. -/
def contains (c : Collection) (name : String) : Bool :=
  c.parameters.any (·.invariantName == name)

/-- Add a descriptor under a new name. -/
def push (c : Collection) (p : Parameter) : Except Error Collection :=
  if c.contains p.invariantName then .error (.duplicateParameter p.invariantName)
  else .ok ⟨c.parameters ++ [p]⟩

/-- Add a descriptor inferred from a value. -/
def addValue (mapper : TypeMapper) (c : Collection) (invariantName name : String) (v : Value) :
    Except Error Collection := do
  c.push (← Parameter.ofValue mapper invariantName name v)

/-- Add a descriptor of a static type. -/
def addType (mapper : TypeMapper) (c : Collection) (invariantName name : String)
    (t : ValueType) : Except Error Collection := do
  c.push (← Parameter.ofType mapper invariantName name t)

/-- Add a descriptor for a column. -/
def addProperty (mapper : TypeMapper) (c : Collection) (invariantName name : String)
    (p : Property) : Except Error Collection := do
  c.push (← Parameter.ofProperty mapper invariantName name p)

/-- Add a composite whose children an action adds to a blank collection. -/
def addComposite (c : Collection) (invariantName : String)
    (action : Collection → Except Error Collection) : Except Error Collection := do
  Error.checkNotEmpty invariantName "invariant_name"
  let inner ← action blank
  if inner.parameters.isEmpty then return c
  c.push (← Parameter.composite? invariantName inner.parameters)

end Collection

instance : ParameterStore Collection where
  blank := .blank
  parameters := Collection.parameters
  addValue := Collection.addValue
  addType mapper c invariantName name t _ := c.addType mapper invariantName name t
  addProperty mapper c invariantName name p _ := c.addProperty mapper invariantName name p
  addComposite := Collection.addComposite

/-! ### Descriptors with values -/

/-- Descriptors and the value given with each. -/
structure ValueCollection where
  parameters : List Parameter
  values : ValueMap
deriving Inhabited

namespace ValueCollection

/-- Nothing added yet. -/
def blank : ValueCollection := ⟨[], []⟩

/-- Add a descriptor and its value under a new name. -/
def push (c : ValueCollection) (p : Parameter) (v : Value) : Except Error ValueCollection :=
  if (c.values.lookup p.invariantName).isSome then .error (.duplicateParameter p.invariantName)
  else .ok ⟨c.parameters ++ [p], c.values ++ [(p.invariantName, v)]⟩

/-- Add a descriptor inferred from a value. -/
def addValue (mapper : TypeMapper) (c : ValueCollection) (invariantName name : String)
    (v : Value) : Except Error ValueCollection := do
  c.push (← Parameter.ofValue mapper invariantName name v) v

/-- Add a descriptor of a static type, and a value for it. -/
def addType (mapper : TypeMapper) (c : ValueCollection) (invariantName name : String)
    (t : ValueType) (v : Value) : Except Error ValueCollection := do
  c.push (← Parameter.ofType mapper invariantName name t) v

/-- Add a descriptor for a column, and a value for it. -/
def addProperty (mapper : TypeMapper) (c : ValueCollection) (invariantName name : String)
    (p : Property) (v : Value) : Except Error ValueCollection := do
  c.push (← Parameter.ofProperty mapper invariantName name p) v

/-- The value kept for a descriptor. -/
def valueOf (c : ValueCollection) (p : Parameter) : Except Error Value :=
  match c.values.lookup p.invariantName with
  | some v => .ok v
  | none => .error (.internal s!"no cached value for composite child '{p.invariantName}'")

/-- Add a composite whose children an action adds to a blank collection. Its value is the array
of the children's values, in order. -/
def addComposite (c : ValueCollection) (invariantName : String)
    (action : ValueCollection → Except Error ValueCollection) :
    Except Error ValueCollection := do
  Error.checkNotEmpty invariantName "invariant_name"
  let inner ← action blank
  if inner.parameters.isEmpty then return c
  let items ← inner.parameters.mapM inner.valueOf
  c.push (← Parameter.composite? invariantName inner.parameters) (.array items)

end ValueCollection

instance : ParameterStore ValueCollection where
  blank := .blank
  parameters := ValueCollection.parameters
  addValue := ValueCollection.addValue
  addType := ValueCollection.addType
  addProperty := ValueCollection.addProperty
  addComposite := ValueCollection.addComposite

end SqlCommands
