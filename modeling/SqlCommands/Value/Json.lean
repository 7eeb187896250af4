import SqlCommands.Config
import SqlCommands.Json.Decode
import SqlCommands.Value

/-!
# JSON forms

The trees of values, native parameters and their vocabulary. A value is an object whose one member
names its constructor, and null is the word `Null`; a native parameter and a column are records; a
byte string is a list of numbers; the words of an enumeration are strings.

`encode` builds the tree of a thing and `decode?` reads it back within a depth of nesting. A float
that is no number has no tree that can be read back.
-/

namespace SqlCommands

open Json

/-! ### Words and types -/

/-- The tree of an enumeration's word. -/
def Json.ofWord (name : String) : Json := .string name

namespace ValueType

/-- The tree of a static type. -/
def encode (t : ValueType) : Json :=
  .record [("kind", .string t.kind.name), ("declared_nullable", .bool t.declaredNullable)]

/-- The static type of a tree. -/
def decode? : Nat → Json → Option ValueType
  | 0, _ => none
  | depth + 1, j =>
    match slots? ["kind", "declared_nullable"] j with
    | some [kind, declaredNullable] => do
      return {
        kind := ← kind.required (word? depth ValueKind.ofName?)
        declaredNullable := ← declaredNullable.required bool? }
    | _ => none

end ValueType

namespace Property

/-- The tree of a column. -/
def encode (p : Property) : Json :=
  .record [("name", .string p.name), ("value_type", p.valueType.encode),
    ("is_nullable", .bool p.isNullable), ("column_type", .ofOption .string p.columnType)]

/-- The column of a tree. -/
def decode? : Nat → Json → Option Property
  | 0, _ => none
  | depth + 1, j =>
    match slots? ["name", "value_type", "is_nullable", "column_type"] j with
    | some [name, valueType, isNullable, columnType] => do
      return {
        name := ← name.required text?
        valueType := ← valueType.required (ValueType.decode? depth)
        isNullable := ← isNullable.required bool?
        columnType := ← columnType.optional text? }
    | _ => none

end Property

namespace Config

/-- The tree of a configuration. -/
def encode (c : Config) : Json :=
  .record [("sensitive_data_logging", .bool c.sensitiveDataLogging),
    ("parameter_prefix", .string c.parameterPrefix),
    ("parameter_name_base", .string c.parameterNameBase)]

/-- The configuration of a tree. Every field has a default. -/
def decode? : Nat → Json → Option Config
  | 0, _ => none
  | _ + 1, j =>
    match slots? ["sensitive_data_logging", "parameter_prefix", "parameter_name_base"] j with
    | some [logging, marker, base] => do
      return {
        sensitiveDataLogging := ← logging.defaulted standard.sensitiveDataLogging bool?
        parameterPrefix := ← marker.defaulted standard.parameterPrefix text?
        parameterNameBase := ← base.defaulted standard.parameterNameBase text? }
    | _ => none

end Config

/-! ### Values -/

/-- The tree of a float: null unless it is finite. -/
def Json.ofFloat (x : Float) : Json := if x.isFinite then .float x else .null

mutual

/-- The tree of a value. -/
def Value.encode : Value → Json
  | .null => .string "Null"
  | .bool b => .record [("Bool", .bool b)]
  | .int n => .record [("Int", .integer n.toInt)]
  | .float x => .record [("Float", .ofFloat x)]
  | .string s => .record [("String", .string s)]
  | .bytes bs => .record [("Bytes", .array (bs.map fun b => .integer b.toNat))]
  | .array items => .record [("Array", .array (Value.encodeAll items))]
  | .parameter p => .record [("Parameter", p.encode)]

/-- The trees of values. -/
def Value.encodeAll : List Value → List Json
  | [] => []
  | v :: vs => v.encode :: Value.encodeAll vs

/-- The tree of a native parameter. -/
def DbParameter.encode : DbParameter → Json
  | ⟨name, value, direction, dbType, isNullable, size⟩ =>
    .record [("name", .string name), ("value", value.encode),
      ("direction", .string direction.name),
      ("db_type", .ofOption (fun t => .string t.name) dbType),
      ("is_nullable", .ofOption .bool isNullable),
      ("size", .ofOption (fun n => .integer n.toNat) size)]

end

/-- A 64-bit signed integer. -/
def Json.int64? (j : Json) : Option Int64 :=
  (j.integer? Int64.minValue.toInt Int64.maxValue.toInt).map Int64.ofInt

/-- A 64-bit unsigned integer. -/
def Json.uint64? (j : Json) : Option UInt64 :=
  (j.integer? 0 (UInt64.size - 1 : Nat)).map fun n => UInt64.ofNat n.toNat

/-- A byte. -/
def Json.byte? (j : Json) : Option UInt8 :=
  (j.integer? 0 255).map fun n => UInt8.ofNat n.toNat

/-- The items of a list, each decoded one level deeper. -/
def Json.list? {α : Type} (depth : Nat) (decode : Json → Option α) : Json → Option (List α)
  | .array items => if depth = 0 then none else items.mapM decode
  | _ => none

/-- The native parameter of a tree, given how its value is decoded. -/
def DbParameter.decodeWith? (depth : Nat) (decodeValue : Json → Option Value) (j : Json) :
    Option DbParameter :=
  match slots? ["name", "value", "direction", "db_type", "is_nullable", "size"] j with
  | some [name, value, direction, dbType, isNullable, size] => do
    return {
      name := ← name.required text?
      value := ← value.required decodeValue
      direction := ← direction.required (word? depth Direction.ofName?)
      dbType := ← dbType.optional (word? depth DbType.ofName?)
      isNullable := ← isNullable.optional bool?
      size := ← size.optional uint64? }
  | _ => none

/-- The value of a tree. An object costs one level, and a list or record inside it another. -/
def Value.decode? : Nat → Json → Option Value
  | _, .string s => if s = "Null" then some .null else none
  | depth + 1, .object [(some tag, body)] =>
    match tag with
    | "Null" => match body with
      | .null => some .null
      | _ => none
    | "Bool" => body.bool?.map .bool
    | "Int" => body.int64?.map .int
    | "Float" => body.float?.map .float
    | "String" => body.text?.map .string
    | "Bytes" => (body.list? depth byte?).map .bytes
    | "Array" =>
      match depth, body with
      | depth + 1, .array items => (items.mapM (Value.decode? depth)).map .array
      | _, _ => none
    | "Parameter" =>
      match depth with
      | depth + 1 => (DbParameter.decodeWith? depth (Value.decode? depth) body).map .parameter
      | 0 => none
    | _ => none
  | _, _ => none

/-- The native parameter of a tree. -/
def DbParameter.decode? : Nat → Json → Option DbParameter
  | 0, _ => none
  | depth + 1, j => decodeWith? depth (Value.decode? depth) j

end SqlCommands
