import SqlCommands.Mapping

/-!
# Parameter descriptors

A `Parameter` names one logical parameter and knows how to attach itself to a native command once
it has a value: a `native` one hands on the native parameter it is given, a `typed` one builds
it through its mapping, and a `composite` binds its children to the elements of an array.

`Parameter.bind` tells what is attached before it succeeds or fails. `Parameter.Fits` is the
shape a value must have for it to succeed.
-/

namespace SqlCommands

/-- A parameter descriptor. -/
inductive Parameter where
  /-- The value is a native parameter and is attached as it is. -/
  | native (invariantName : String)
  /-- The mapping builds the native parameter. -/
  | typed (invariantName name : String) (mapping : Mapping) (nullable : Option Bool)
  /-- The children are bound, in order, to the elements of an array. -/
  | composite (invariantName : String) (children : List Parameter)
deriving Inhabited

namespace Parameter

/-- The key under which the value is looked up. -/
def invariantName : Parameter → String
  | native n => n
  | typed n _ _ _ => n
  | composite n _ => n

/-! ### Checked construction -/

/-- A pass-through descriptor. -/
def native? (invariantName : String) : Except Error Parameter := do
  Error.checkNotEmpty invariantName "invariant_name"
  return native invariantName

/-- A descriptor whose native parameter a mapping builds. -/
def typed? (invariantName name : String) (mapping : Mapping) (nullable : Option Bool) :
    Except Error Parameter := do
  Error.checkNotEmpty invariantName "invariant_name"
  Error.checkNotEmpty name "name"
  return typed invariantName name mapping nullable

/-- A descriptor that groups others. -/
def composite? (invariantName : String) (children : List Parameter) : Except Error Parameter := do
  Error.checkNotEmpty invariantName "invariant_name"
  return composite invariantName children

/-! ### Equality -/

mutual

/-- Equality of descriptors, field by field. -/
def eq : Parameter → Parameter → Bool
  | native a, native b => a == b
  | typed a n m u, typed a' n' m' u' => a == a' && n == n' && m == m' && u == u'
  | composite a cs, composite b ds => a == b && eqAll cs ds
  | _, _ => false

/-- Equality of descriptor lists. -/
def eqAll : List Parameter → List Parameter → Bool
  | [], [] => true
  | p :: ps, q :: qs => p.eq q && eqAll ps qs
  | _, _ => false

end

instance : BEq Parameter := ⟨eq⟩

end Parameter

/-! ### Binding -/

/-- What binding attached to a command, and the error that stopped it, if one did. -/
structure Attachment where
  attached : List DbParameter
  fault? : Option Error

namespace Attachment

/-- Attach nothing. -/
def done : Attachment := ⟨[], none⟩

/-- Attach one native parameter. -/
def one (p : DbParameter) : Attachment := ⟨[p], none⟩

/-- Stop with an error. -/
def fail (e : Error) : Attachment := ⟨[], some e⟩

/-- Go on after an attachment, unless it was stopped. -/
def andThen (a : Attachment) (rest : Unit → Attachment) : Attachment :=
  match a.fault? with
  | some _ => a
  | none => ⟨a.attached ++ (rest ()).attached, (rest ()).fault?⟩

@[simp] theorem done_andThen (rest : Unit → Attachment) : done.andThen rest = rest () := rfl

end Attachment

namespace Parameter

mutual

/-- Attach the native parameters for a value. Typed parameters start from the driver's blank
parameter. A composite checks its value before any child is bound. -/
def bind (blank : DbParameter) : Parameter → Value → Attachment
  | native n, v =>
    match v with
    | .parameter p => .one p
    | _ => .fail (.parameterNotNative n)
  | typed _ name mapping nullable, v => .one (mapping.parameter blank name v nullable)
  | composite n children, v =>
    match v with
    | .array items =>
      if items.length = children.length then bindAll blank children items
      else .fail (.parameterCount n children.length items.length)
    | _ => .fail (.parameterNotSequence n)

/-- Bind descriptors to values, pairwise and in order, up to the first failure. -/
def bindAll (blank : DbParameter) : List Parameter → List Value → Attachment
  | p :: ps, v :: vs => (p.bind blank v).andThen fun _ => bindAll blank ps vs
  | _, _ => .done

end

mutual

/-- The shape a value must have to be bound: a native parameter at each pass-through node,
anything at a typed one, and at a composite an array with one fitting element for each child. -/
def Fits : Parameter → Value → Prop
  | native _, v => v.isParameter = true
  | typed _ _ _ _, _ => True
  | composite _ children, v =>
    match v with
    | .array items => FitAll children items
    | _ => False

/-- Descriptors and values of one length that fit pairwise. -/
def FitAll : List Parameter → List Value → Prop
  | [], [] => True
  | p :: ps, v :: vs => p.Fits v ∧ FitAll ps vs
  | _, _ => False

end

end Parameter

end SqlCommands
