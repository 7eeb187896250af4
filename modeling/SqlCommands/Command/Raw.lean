import SqlCommands.Command
import SqlCommands.Config
import SqlCommands.Text.Template

/-!
# Raw commands

A raw command is a template and a list of arguments. The arguments are bound under generated names
`p0`, `p1`, …, and each placeholder of the template is replaced by what the dialect writes for the
name of its argument. Without arguments the template is the command text as it stands.
-/

namespace SqlCommands

/-- Generates names from a base and a counter. -/
structure NameGenerator where
  base : String
  count : Nat
deriving DecidableEq, Inhabited

namespace NameGenerator

/-- A generator that has produced no name. -/
def ofBase (base : String) : NameGenerator := ⟨base, 0⟩

/-- The next name. -/
def next (g : NameGenerator) : String × NameGenerator :=
  (g.base ++ toString g.count, { g with count := g.count + 1 })

/-- Begin again. -/
def reset (g : NameGenerator) : NameGenerator := { g with count := 0 }

end NameGenerator

/-- How a dialect writes parameters in command text. -/
structure Dialect where
  /-- What stands for the parameter of a name. -/
  placeholder : String → String

namespace Dialect

/-- Put a marker before the name. -/
def marked (marker : String) : Dialect := ⟨fun name => marker ++ name⟩

/-- The dialect of a configuration. -/
def ofConfig (c : Config) : Dialect := marked c.parameterPrefix

end Dialect

/-- Builds raw commands. -/
structure RawBuilder where
  mapper : TypeMapper
  dialect : Dialect
  nameBase : String := "p"

namespace RawBuilder

/-- The builder of a configuration, if that is acceptable. -/
def ofConfig (mapper : TypeMapper) (c : Config) : Except Error RawBuilder := do
  c.validate
  return ⟨mapper, .ofConfig c, c.parameterNameBase⟩

/-- Add a parameter for each argument, and list what stands for each in the text. -/
def addArguments (r : RawBuilder) :
    NameGenerator → List Value → ValueCollection → Except Error (ValueCollection × List String)
  | _, [], c => .ok (c, [])
  | g, v :: vs, c => do
    let placeholder := r.dialect.placeholder g.next.1
    let c ← c.addValue r.mapper g.next.1 placeholder v
    let (c, placeholders) ← r.addArguments g.next.2 vs c
    return (c, placeholder :: placeholders)

/-- Build a command from a template and its arguments. -/
def build (r : RawBuilder) (template : String) (arguments : List Value) :
    Except Error CachedCommand := do
  if template = "" then throw .emptyCommandText
  let b : Builder ValueCollection := .blank
  if arguments.isEmpty then return (b.write (.append template)).buildCached
  let (parameters, placeholders) ←
    r.addArguments (.ofBase r.nameBase) arguments b.parameters
  match Template.expand template placeholders with
  | .ok text => return ({ b with parameters }.write (.append text)).buildCached
  | .error fault => throw (.invalidArgument "sql" fault.message)

end RawBuilder

end SqlCommands
