import SqlCommands.Command
import SqlCommands.Diagnostics
import SqlCommands.Inspect.Form

/-!
# Forms of the library's types

How errors, values, parameters, commands, builders and diagnostic events look when they are
inspected. Builders and collections leave out what they only refer to.
-/

namespace SqlCommands

/-! ### Errors -/

instance : Inspect DbError where
  inspect e := .record "DbError"
    [("kind", .word e.kind.name), ("code", inspect (e.code.map Int32.toInt)),
      ("message", inspect e.message)] false

/-- The form of an error. -/
def Error.inspect : Error → Inspection
  | missingParameterValue name =>
    .record "MissingParameterValue" [("name", SqlCommands.inspect name)] false
  | parameterNotNative name =>
    .record "ParameterNotDbParameter" [("name", SqlCommands.inspect name)] false
  | parameterNotSequence name =>
    .record "ParameterNotSequence" [("name", SqlCommands.inspect name)] false
  | parameterCount name expected actual =>
    .record "ParameterCount"
      [("name", SqlCommands.inspect name), ("expected", SqlCommands.inspect expected),
        ("actual", SqlCommands.inspect actual)] false
  | emptyCommandText => .word "EmptyCommandText"
  | invalidArgument argument reason =>
    .record "InvalidArgument"
      [("name", SqlCommands.inspect argument), ("reason", SqlCommands.inspect reason)] false
  | duplicateParameter name =>
    .record "DuplicateParameter" [("name", SqlCommands.inspect name)] false
  | database e => .tagged "Database" (SqlCommands.inspect e)
  | config reason => .record "Config" [("reason", SqlCommands.inspect reason)] false
  | internal reason => .record "Internal" [("reason", SqlCommands.inspect reason)] false

instance : Inspect Error := ⟨Error.inspect⟩

/-! ### Values and parameters -/

mutual

/-- The form of a value. -/
def Value.inspect : Value → Inspection
  | .null => .word "Null"
  | .bool b => .tagged "Bool" (SqlCommands.inspect b)
  | .int n => .tagged "Int" (SqlCommands.inspect n.toInt)
  | .float x => .tagged "Float" (SqlCommands.inspect x)
  | .string s => .tagged "String" (SqlCommands.inspect s)
  | .bytes bs => .tagged "Bytes" (SqlCommands.inspect (bs.map UInt8.toNat))
  | .array items => .tagged "Array" (.list (Value.inspectAll items))
  | .parameter p => .tagged "Parameter" p.inspect

/-- The forms of values. -/
def Value.inspectAll : List Value → List Inspection
  | [] => []
  | v :: vs => v.inspect :: Value.inspectAll vs

/-- The form of a native parameter. -/
def DbParameter.inspect : DbParameter → Inspection
  | ⟨name, value, direction, dbType, isNullable, size⟩ =>
    .record "DbParameter"
      [("name", SqlCommands.inspect name), ("value", value.inspect),
        ("direction", .word direction.name),
        ("db_type", dbType.elim (.word "None") fun t => .tagged "Some" (.word t.name)),
        ("is_nullable", SqlCommands.inspect isNullable),
        ("size", SqlCommands.inspect (size.map UInt64.toNat))] false

end

instance : Inspect Value := ⟨Value.inspect⟩
instance : Inspect DbParameter := ⟨DbParameter.inspect⟩

instance : Inspect Mapping where
  inspect m := .record "RelationalTypeMapping"
    [("store_type", inspect m.storeType),
      ("db_type", m.dbType.elim (.word "None") fun t => .tagged "Some" (.word t.name)),
      ("size", inspect (m.size.map UInt64.toNat))] false

mutual

/-- The form of a descriptor. -/
def Parameter.inspect : Parameter → Inspection
  | .native n =>
    .record "RelationalParameter"
      [("invariant_name", SqlCommands.inspect n), ("kind", .word "DbParameter")] false
  | .typed n name mapping nullable =>
    .record "RelationalParameter"
      [("invariant_name", SqlCommands.inspect n),
        ("kind", .record "TypeMapped"
          [("name", SqlCommands.inspect name), ("mapping", SqlCommands.inspect mapping),
            ("nullable", SqlCommands.inspect nullable)] false)] false
  | .composite n children =>
    .record "RelationalParameter"
      [("invariant_name", SqlCommands.inspect n),
        ("kind", .tagged "Composite" (.list (Parameter.inspectAll children)))] false

/-- The forms of descriptors. -/
def Parameter.inspectAll : List Parameter → List Inspection
  | [] => []
  | p :: ps => p.inspect :: Parameter.inspectAll ps

end

instance : Inspect Parameter := ⟨Parameter.inspect⟩

/-- The form of a value map. -/
def ValueMap.inspect (values : ValueMap) : Inspection :=
  .map (values.map fun entry => (entry.1, entry.2.inspect))

/-! ### Collections, commands and builders -/

instance : Inspect Collection where
  inspect c := .record "ParameterCollection" [("parameters", inspect c.parameters)] true

instance : Inspect ValueCollection where
  inspect c := .record "ParameterValueCacheCollection"
    [("parameters", inspect (⟨c.parameters⟩ : Collection)), ("values", ValueMap.inspect c.values)]
    false

instance : Inspect Indented where
  inspect t := .record "IndentedStringBuilder"
    [("buf", inspect t.text), ("indent", inspect t.level), ("indent_pending", inspect t.pending)]
    false

instance : Inspect Command where
  inspect c := .record "RelationalCommand"
    [("command_text", inspect c.text), ("parameters", inspect c.parameters)] false

instance : Inspect CachedCommand where
  inspect c := .record "RelationalCommandValueCache"
    [("command", inspect c.command), ("parameter_values", ValueMap.inspect c.values)] false

instance : Inspect (Builder Collection) where
  inspect b := .record "CommandBuilder"
    [("text", inspect b.text), ("parameters", inspect b.parameters)] true

instance : Inspect (Builder ValueCollection) where
  inspect b := .record "CommandValueCacheBuilder"
    [("text", inspect b.text), ("parameters", inspect b.parameters)] true

/-! ### Diagnostic events -/

instance : Inspect Diagnostics.EventData where
  inspect d := .record "CommandEventData"
    [("command_text", inspect d.command.text), ("execute_method", inspect d.kind.methodName),
      ("is_async", inspect d.isAsync), ("error", inspect d.error?)] false

end SqlCommands
