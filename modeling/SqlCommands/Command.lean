import SqlCommands.Parameter.Script
import SqlCommands.Text.Indented

/-!
# Commands and their builders

A `Command` is text with parameter descriptors; its values come with each execution. A
`CachedCommand` carries the values it was built with. A `Builder` puts text and descriptors
together over either kind of collection, and a command built from it is a snapshot.

`BuilderStep` is one call of a builder as data.
-/

namespace SqlCommands

/-- Command text and parameter descriptors. -/
structure Command where
  text : String
  parameters : List Parameter
deriving Inhabited

/-- A command with the values bound on every execution. -/
structure CachedCommand where
  command : Command
  values : ValueMap
deriving Inhabited

/-- One call of a builder. -/
inductive BuilderStep where
  | write (step : TextStep)
  | add (step : Addition)

/-- A command being put together over a collection of parameters. -/
structure Builder (C : Type) where
  text : Indented
  parameters : C

namespace Builder

variable {C : Type} [ParameterStore C]

/-- No text and no parameters. -/
def blank : Builder C := ⟨.blank, ParameterStore.blank⟩

/-- Write text. -/
def write (b : Builder C) (step : TextStep) : Builder C := { b with text := step.run b.text }

/-- Add a parameter. -/
def add (mapper : TypeMapper) (b : Builder C) (step : Addition) :
    Addition.Report × Builder C :=
  let (report, parameters) := step.run mapper b.parameters
  (report, { b with parameters })

/-- Make calls one after the other, whatever becomes of each. -/
def runAll (mapper : TypeMapper) :
    List BuilderStep → Builder C → List Addition.Report × Builder C
  | [], b => ([], b)
  | .write step :: steps, b => runAll mapper steps (b.write step)
  | .add step :: steps, b =>
    let (report, b) := b.add mapper step
    let (reports, b) := runAll mapper steps b
    (report :: reports, b)

/-- The command as it stands. -/
def build (b : Builder Collection) : Command := ⟨b.text.text, b.parameters.parameters⟩

/-- The command with its values as it stands. -/
def buildCached (b : Builder ValueCollection) : CachedCommand :=
  ⟨⟨b.text.text, b.parameters.parameters⟩, b.parameters.values⟩

end Builder

end SqlCommands
