import SqlCommands.Error
import SqlCommands.Value

/-!
# Type mappings

A `Mapping` says how one logical type is stored and bound; `Mapping.parameter` builds the native
parameter for a value from the driver's own blank one. A `TypeMapper` is a catalog that finds a
mapping for a value, a static type or a column, and may refuse. `TypeMapper.standard` covers every
kind but native parameters, which have no store type.
-/

namespace SqlCommands

/-- How one logical type is stored and bound. -/
structure Mapping where
  storeType : String
  dbType : Option DbType
  size : Option UInt64 := none
deriving DecidableEq, Inhabited

/-- The native input parameter for a value. The driver's blank parameter stands where
nullability, native type or size are not known. -/
def Mapping.parameter (m : Mapping) (blank : DbParameter) (name : String) (value : Value)
    (nullable : Option Bool) : DbParameter where
  name := name
  value := value
  direction := .input
  dbType := m.dbType <|> blank.dbType
  isNullable := nullable <|> blank.isNullable
  size := m.size <|> blank.size

/-- A catalog of type mappings. -/
structure TypeMapper where
  forValue : Value → Except Error Mapping
  forType : ValueType → Except Error Mapping
  forProperty : Property → Except Error Mapping

/-- The store type of each kind. -/
def Mapping.ofKind : ValueKind → Except Error Mapping
  | .bool => .ok { storeType := "bit", dbType := some .boolean }
  | .int => .ok { storeType := "bigint", dbType := some .int64 }
  | .float => .ok { storeType := "float", dbType := some .double }
  | .string => .ok { storeType := "nvarchar(max)", dbType := some .string }
  | .bytes => .ok { storeType := "varbinary(max)", dbType := some .binary }
  | .array => .ok { storeType := "sql_variant", dbType := some .object }
  | .parameter =>
    .error (.invalidArgument "type" "native parameters have no store type mapping")

/-- The catalog by kind. Null leaves its native type to the driver, and a column may name its
own store type. -/
def TypeMapper.standard : TypeMapper where
  forValue v :=
    match v.kind? with
    | some kind => Mapping.ofKind kind
    | none => .ok { storeType := "sql_variant", dbType := none }
  forType t := Mapping.ofKind t.kind
  forProperty p := do
    let mapping ← Mapping.ofKind p.valueType.kind
    return { mapping with storeType := p.columnType.getD mapping.storeType }

end SqlCommands
