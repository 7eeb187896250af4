import SqlCommands.Value.Kind

/-!
# Values

A `Value` is what a caller binds to a parameter. Scalars are turned into native parameters by a
type mapping; an array feeds the children of a composite parameter, one element each; a
`DbParameter` is a native parameter the caller built, handed to the driver as it is.

Equality (`Value.eq`, the `==` of both types) never holds between different constructors, and
compares floats as IEEE numbers: the two zeros are equal and no NaN equals anything.
-/

namespace SqlCommands

mutual

/-- A value bound to a parameter. -/
inductive Value where
  | null
  | bool (b : Bool)
  | int (n : Int64)
  | float (x : Float)
  | string (s : String)
  | bytes (bs : List UInt8)
  | array (items : List Value)
  | parameter (p : DbParameter)

/-- A parameter as a driver sees it. Absent type, nullability and size are left to the driver. -/
structure DbParameter where
  name : String
  value : Value
  direction : Direction
  dbType : Option DbType
  isNullable : Option Bool
  size : Option UInt64

end

instance : Inhabited Value := ⟨.null⟩

namespace DbParameter

/-- An input parameter without name, holding null. -/
def empty : DbParameter := ⟨"", .null, .input, none, none, none⟩

instance : Inhabited DbParameter := ⟨empty⟩

/-- An input parameter holding null. -/
def named (name : String) : DbParameter := { empty with name }

end DbParameter

namespace Value

/-! ### Kinds and accessors -/

/-- The kind of a value. Null carries no static type, so it has none. -/
def kind? : Value → Option ValueKind
  | .null => none
  | .bool _ => some .bool
  | .int _ => some .int
  | .float _ => some .float
  | .string _ => some .string
  | .bytes _ => some .bytes
  | .array _ => some .array
  | .parameter _ => some .parameter

/-- The spelling of a value's kind, `Null` for null. -/
def typeName (v : Value) : String := v.kind?.elim "Null" ValueKind.name

/-- Whether the value is null. -/
def isNull : Value → Bool
  | .null => true
  | _ => false

/-- Whether the value is a native parameter. -/
def isParameter : Value → Bool
  | .parameter _ => true
  | _ => false

/-- The integer in the value. -/
def asInt? : Value → Option Int64
  | .int n => some n
  | _ => none

/-- The string in the value. -/
def asString? : Value → Option String
  | .string s => some s
  | _ => none

/-- The elements of the value. -/
def asArray? : Value → Option (List Value)
  | .array items => some items
  | _ => none

/-- The native parameter in the value. -/
def asParameter? : Value → Option DbParameter
  | .parameter p => some p
  | _ => none

end Value

/-! ### Equality -/

mutual

/-- Equality of values: same constructor, floats compared as IEEE numbers. -/
def Value.eq : Value → Value → Bool
  | .null, .null => true
  | .bool a, .bool b => a == b
  | .int a, .int b => a == b
  | .float a, .float b => a == b
  | .string a, .string b => a == b
  | .bytes a, .bytes b => a == b
  | .array as, .array bs => Value.eqAll as bs
  | .parameter p, .parameter q => p.eq q
  | _, _ => false

/-- Equality of value lists, element by element. -/
def Value.eqAll : List Value → List Value → Bool
  | [], [] => true
  | a :: as, b :: bs => a.eq b && Value.eqAll as bs
  | _, _ => false

/-- Equality of native parameters, field by field. -/
def DbParameter.eq : DbParameter → DbParameter → Bool
  | ⟨n, v, d, t, u, s⟩, ⟨n', v', d', t', u', s'⟩ =>
    n == n' && v.eq v' && d == d' && t == t' && u == u' && s == s'

end

instance : BEq Value := ⟨Value.eq⟩

instance : BEq DbParameter := ⟨DbParameter.eq⟩

/-! ### Values of other types -/

/-- Types whose elements can be bound as values. -/
class ToValue (α : Type) where
  toValue : α → Value

export ToValue (toValue)

instance : ToValue Value := ⟨id⟩
instance : ToValue String := ⟨.string⟩
instance : ToValue Bool := ⟨.bool⟩
instance : ToValue Int64 := ⟨.int⟩
instance : ToValue Int32 := ⟨fun n => .int n.toInt64⟩
instance : ToValue Float := ⟨.float⟩
instance : ToValue (List UInt8) := ⟨.bytes⟩
instance : ToValue (List Value) := ⟨.array⟩
instance : ToValue DbParameter := ⟨.parameter⟩

/-- An absent element is null. -/
instance {α : Type} [ToValue α] : ToValue (Option α) := ⟨fun x => x.elim .null toValue⟩

end SqlCommands
