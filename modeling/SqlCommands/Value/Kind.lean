/-!
# Kinds and static types

The vocabulary that parameter builders and type mappings share: the kind of a value, the static
type of a column (a kind and whether it was declared nullable), and the native database types,
parameter directions and command types a driver knows.

Each enumeration has a `name`, the spelling used in every rendered form, and an `ofName?` that
reads it back.
-/

namespace SqlCommands

/-! ### Value kinds -/

/-- The kind of a value at run time. -/
inductive ValueKind where
  | bool
  | int
  | float
  | string
  | bytes
  | array
  | parameter
deriving DecidableEq, Inhabited

namespace ValueKind

/-- All kinds, in declaration order. -/
def all : List ValueKind := [.bool, .int, .float, .string, .bytes, .array, .parameter]

/-- Reference kinds can always hold null; the others only inside a nullable type. -/
def isReference : ValueKind → Bool
  | .string | .bytes | .array | .parameter => true
  | .bool | .int | .float => false

/-- The spelling of a kind. -/
def name : ValueKind → String
  | .bool => "Bool"
  | .int => "Int"
  | .float => "Float"
  | .string => "String"
  | .bytes => "Bytes"
  | .array => "Array"
  | .parameter => "Parameter"

/-- The kind with a given spelling. -/
def ofName? (s : String) : Option ValueKind := all.find? (·.name == s)

end ValueKind

/-! ### Static types -/

/-- A static type: a kind, and whether it was declared nullable. -/
structure ValueType where
  kind : ValueKind
  declaredNullable : Bool := false
deriving DecidableEq, Inhabited

namespace ValueType

/-- The type of a kind as it stands. -/
def plain (kind : ValueKind) : ValueType := ⟨kind, false⟩

/-- The explicitly nullable type of a kind. -/
def nullable (kind : ValueKind) : ValueType := ⟨kind, true⟩

/-- Whether a value of this type may be null. -/
def isNullable (t : ValueType) : Bool := t.declaredNullable || t.kind.isReference

end ValueType

/-- What a type mapping needs to know about a column. -/
structure Property where
  name : String
  valueType : ValueType
  isNullable : Bool
  columnType : Option String
deriving DecidableEq, Inhabited

namespace Property

/-- A column whose nullability follows its type. -/
def ofType (name : String) (valueType : ValueType) : Property :=
  ⟨name, valueType, valueType.isNullable, none⟩

/-- Override the nullability. -/
def withNullable (p : Property) (isNullable : Bool) : Property := { p with isNullable }

/-- Set an explicit store type. -/
def withColumnType (p : Property) (columnType : String) : Property :=
  { p with columnType := some columnType }

end Property

/-! ### Native vocabulary -/

/-- The native type of a parameter. -/
inductive DbType where
  | boolean
  | int32
  | int64
  | double
  | string
  | binary
  | object
deriving DecidableEq, Inhabited

namespace DbType

/-- All native types, in declaration order. -/
def all : List DbType := [.boolean, .int32, .int64, .double, .string, .binary, .object]

/-- The spelling of a native type. -/
def name : DbType → String
  | .boolean => "Boolean"
  | .int32 => "Int32"
  | .int64 => "Int64"
  | .double => "Double"
  | .string => "String"
  | .binary => "Binary"
  | .object => "Object"

/-- The native type with a given spelling. -/
def ofName? (s : String) : Option DbType := all.find? (·.name == s)

theorem ofName?_name (t : DbType) : ofName? t.name = some t := by cases t <;> decide

end DbType

/-- Which way a parameter carries its value. -/
inductive Direction where
  | input
  | output
  | inputOutput
  | returnValue
deriving DecidableEq, Inhabited

namespace Direction

/-- All directions, in declaration order. -/
def all : List Direction := [.input, .output, .inputOutput, .returnValue]

/-- The spelling of a direction. -/
def name : Direction → String
  | .input => "Input"
  | .output => "Output"
  | .inputOutput => "InputOutput"
  | .returnValue => "ReturnValue"

/-- The direction with a given spelling. -/
def ofName? (s : String) : Option Direction := all.find? (·.name == s)

theorem ofName?_name (d : Direction) : ofName? d.name = some d := by cases d <;> decide

end Direction

/-- How a native command reads its text. -/
inductive CommandType where
  | text
  | storedProcedure
  | tableDirect
deriving DecidableEq, Inhabited

namespace CommandType

/-- All command types, in declaration order. -/
def all : List CommandType := [.text, .storedProcedure, .tableDirect]

/-- The spelling of a command type. -/
def name : CommandType → String
  | .text => "Text"
  | .storedProcedure => "StoredProcedure"
  | .tableDirect => "TableDirect"

/-- The command type with a given spelling. -/
def ofName? (s : String) : Option CommandType := all.find? (·.name == s)

end CommandType

end SqlCommands
